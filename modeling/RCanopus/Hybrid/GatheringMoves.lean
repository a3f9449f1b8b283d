import RCanopus.ExchangeMoves
import RCanopus.Hybrid.Gathering

/-!
# The moves of the gathering

The leader issues an entry, an SL accepts one and commits one, a request arrives, an answer is
passed on and taken. Each move keeps the invariant. The logs, the queues and what is committed
change as in the exchange, so the facts about them are used from there.
-/

namespace RCanopus.Hybrid

namespace Gathering

variable {L : Layout} {x : Gathering} {b A i j : Nat} {c : UInt16} {k : FetchKind} {y z : Peer}
  {e e' : Entry} {q : List Entry}

/-- The logs and the queues, without the tokens. -/
def plain (x : Gathering) : Exchange where
  log := x.log
  queue := x.queue
  committed := x.committed
  token := fun _ _ _ _ => .idle

/-! ## Issuing -/

/-- The leader issues an entry, and `q` is left in its queue. -/
def issue (x : Gathering) (b : Nat) (e : Entry) (q : List Entry) : Gathering :=
  { x with
    log := Function.update x.log b (x.log b ++ [e])
    queue := Function.update x.queue b q }

theorem issue_log (b' : Nat) :
    (x.issue b e q).log b' = if b' = b then x.log b ++ [e] else x.log b' :=
  Exchange.issue_log (x := x.plain) (q := q) b'

theorem issue_queue (b' : Nat) :
    (x.issue b e q).queue b' = if b' = b then q else x.queue b' :=
  Exchange.issue_queue (x := x.plain) (e := e) b'

theorem Inv.issue (h : x.Inv L) (hnodup : (x.log b ++ [e] ++ q).Nodup)
    (hneeds : ∀ e', Needs e e' → e' ∈ x.log b) (hq : ∀ e' ∈ q, e' ∈ x.queue b)
    (hmem : ∀ e', (∀ c, e' ≠ .client c) →
      (e' ∈ x.log b ++ [e] ++ q ↔ e' ∈ x.log b ++ x.queue b)) :
    (x.issue b e q).Inv L := by
  have hsub : ∀ b', x.log b' ⊆ (x.issue b e q).log b' := fun b' e' he' =>
    Exchange.issue_subset (x := x.plain) (q := q) b' he'
  have hall : ∀ b' e', (∀ c, e' ≠ .client c) →
      (e' ∈ (x.issue b e q).log b' ++ (x.issue b e q).queue b'
        ↔ e' ∈ x.log b' ++ x.queue b') := by
    intro b' e' he'
    rw [issue_log, issue_queue]
    split
    · next hb =>
      subst hb
      exact hmem e' he'
    · rfl
  refine { h with
    nodup := fun b' => ?_
    grounded := fun b' => ?_
    queued := fun b' e' he' => ?_
    known := fun b' e' he' => ?_
    committed_log := fun b' i hi => ?_
    followed := fun k b' c => (hall b' _ (k.follow_ne_client c)).trans (h.followed k b' c) }
  · rw [issue_log, issue_queue]
    split
    · exact hnodup
    · exact h.nodup b'
  · rw [issue_log]
    split
    · next hb =>
      subst hb
      exact (h.grounded b').concat hneeds
    · exact h.grounded b'
  · rw [issue_queue] at he'
    have hold : e' ∈ x.queue b' := by
      split at he'
      · next hb =>
        subst hb
        exact hq e' he'
      · exact he'
    obtain ⟨hclient, hn⟩ := h.queued b' e' hold
    exact ⟨hclient, fun e'' he'' => hsub b' (hn e'' he'')⟩
  · intro hclient
    exact h.known b' e' ((hall b' e' hclient).mp he') hclient
  · rw [issue_log]
    split
    · next hb =>
      subst hb
      exact (h.committed_log b' i hi).trans (List.prefix_append _ _)
    · exact h.committed_log b' i hi

/-- An entry of the queue is issued. -/
theorem Inv.issue_queued (h : x.Inv L) (hq : (e :: q).Perm (x.queue b)) :
    (x.issue b e q).Inv L := by
  have hperm : (x.log b ++ [e] ++ q).Perm (x.log b ++ x.queue b) := by
    rw [List.append_assoc]
    exact hq.append_left _
  refine h.issue (hperm.nodup_iff.mpr (h.nodup b)) ?_ ?_ fun e' _ => hperm.mem_iff
  · exact (h.queued b e (hq.subset List.mem_cons_self)).2
  · exact fun e' he' => hq.subset (List.mem_cons_of_mem _ he')

/-- A client Preprepare of a new cycle is issued. -/
theorem Inv.issue_client (h : x.Inv L) (hc : .client c ∉ x.log b) :
    (x.issue b (.client c) (x.queue b)).Inv L := by
  have hperm : (x.log b ++ [Entry.client c] ++ x.queue b).Perm
      (Entry.client c :: (x.log b ++ x.queue b)) := by
    rw [List.append_assoc]
    exact List.perm_middle
  refine h.issue (hperm.nodup_iff.mpr (List.nodup_cons.mpr ⟨?_, h.nodup b⟩))
    (fun e' hn => absurd rfl (hn.ne_client c)) (fun e' he' => he') fun e' he' => ?_
  · intro he
    rcases List.mem_append.mp he with he | he
    · exact hc he
    · exact (h.queued b _ he).1 c rfl
  · rw [hperm.mem_iff, List.mem_cons]
    exact or_iff_right (he' c)

/-! ## Accepting -/

/-- An SL accepts an entry. -/
def accept (x : Gathering) (y : Peer) (e : Entry) : Gathering :=
  { x with accepted := Function.update x.accepted y (x.accepted y ++ [e]) }

theorem mem_accept : e' ∈ (x.accept y e).accepted z ↔ e' ∈ x.accepted z ∨ z = y ∧ e' = e := by
  show e' ∈ Function.update x.accepted y (x.accepted y ++ [e]) z ↔ _
  rw [Function.update_apply]
  split
  · next hz => simp [hz]
  · next hz => simp [hz]

/-- What passes the gate may be accepted. -/
theorem Inv.accept (h : x.Inv L) (hgate : ∀ c, e = .localConnectivity c →
      L.AllOthers y.1 fun A => x.token .result y A c = .done) : (x.accept y e).Inv L := by
  refine { h with
    accepted := fun b i hi j hj e' he' => mem_accept.mpr (Or.inl (h.accepted b i hi j hj he'))
    gate := fun z c hz => ?_ }
  rcases mem_accept.mp hz with hz | ⟨rfl, he⟩
  · exact h.gate z c hz
  · exact hgate c he.symm

/-! ## Committing -/

/-- An SL commits an entry. -/
def commit (x : Gathering) (y : Peer) (e : Entry) : Gathering :=
  { x with committed := Function.update x.committed y (x.committed y ++ [e]) }

theorem commit_committed (z : Peer) :
    (x.commit y e).committed z = if z = y then x.committed y ++ [e] else x.committed z :=
  Exchange.commit_committed (x := x.plain) z

theorem commit_subset (z : Peer) (he : e' ∈ x.committed z) : e' ∈ (x.commit y e).committed z :=
  Exchange.commit_subset (x := x.plain) z he

theorem mem_commit_of_ne (z : Peer) (hne : e' ≠ e) :
    e' ∈ (x.commit y e).committed z ↔ e' ∈ x.committed z :=
  Exchange.mem_commit_of_ne (x := x.plain) z hne

section

variable (h : x.Inv L) (hx : x.Next L y e)

include h hx

theorem Inv.commit_committed_log :
    ∀ b, ∀ i < L.numSL b, (x.commit y e).committed (b, i) <+: x.log b := by
  intro b i hi
  rw [commit_committed]
  split
  · next hy =>
    subst hy
    exact hx.committed_log
  · exact h.committed_log b i hi

theorem Inv.commit_close : ∀ b, ∀ i < L.numSL b, ∀ j < L.numSL b,
    ((x.commit y e).committed (b, i)).length ≤ ((x.commit y e).committed (b, j)).length + 1 := by
  intro b i hi j hj
  have hclose := h.close b i hi j hj
  rw [commit_committed, commit_committed]
  split
  · next hy =>
    subst hy
    have hfirst : _ ≤ (x.committed (b, j)).length := hx.first j hj
    split
    · omega
    · simp only [List.length_append, List.length_singleton]
      omega
  · split
    · simp only [List.length_append, List.length_singleton]
      next hy =>
        rw [hy] at hclose
        omega
    · exact hclose

/-- The others have accepted what is committed. -/
theorem Inv.commit_accepted : ∀ b, ∀ i < L.numSL b, ∀ j < L.numSL b,
    (x.commit y e).committed (b, i) ⊆ x.accepted (b, j) := by
  intro b i hi j hj e' he'
  rw [commit_committed] at he'
  split at he'
  · next hy =>
    subst hy
    rcases List.mem_append.mp he' with he' | he'
    · exact h.accepted b i hi j hj he'
    · rw [List.mem_singleton] at he'
      exact he' ▸ hx.accepted j hj
  · exact h.accepted b i hi j hj he'

end

/-- The leader queues an entry. -/
def push (x : Gathering) (b : Nat) (e : Entry) : Gathering :=
  { x with queue := Function.update x.queue b (x.queue b ++ [e]) }

theorem push_queue (b' : Nat) :
    (x.push b e).queue b' = if b' = b then x.queue b ++ [e] else x.queue b' :=
  Exchange.push_queue (x := x.plain) b'

theorem mem_push (b' : Nat) : e' ∈ (x.push b e).log b' ++ (x.push b e).queue b'
    ↔ e' ∈ x.log b' ++ x.queue b' ∨ b' = b ∧ e' = e :=
  Exchange.mem_push (x := x.plain) b'

theorem push_queued (hqueued : ∀ b, ∀ e ∈ x.queue b,
      (∀ c, e ≠ .client c) ∧ ∀ e', Needs e e' → e' ∈ x.log b)
    (hclient : ∀ c, e ≠ .client c) (hneeds : ∀ e', Needs e e' → e' ∈ x.log b) :
    ∀ b', ∀ e' ∈ (x.push b e).queue b',
      (∀ c, e' ≠ .client c) ∧ ∀ e'', Needs e' e'' → e'' ∈ x.log b' := by
  intro b' e' he'
  rw [push_queue] at he'
  split at he'
  · next hb =>
    subst hb
    rcases List.mem_append.mp he' with he' | he'
    · exact hqueued b' e' he'
    · rw [List.mem_singleton] at he'
      subst he'
      exact ⟨hclient, hneeds⟩
  · exact hqueued b' e' he'

/-! ## Moving one token -/

/-- The tokens with one of them somewhere else. -/
def moveToken (token : FetchKind → Peer → Nat → UInt16 → Token) (k : FetchKind) (y : Peer)
    (A : Nat) (c : UInt16) (t : Token) (k' : FetchKind) (y' : Peer) (A' : Nat) (c' : UInt16) :
    Token :=
  if k' = k ∧ y' = y ∧ A' = A ∧ c' = c then t else token k' y' A' c'

def setToken (x : Gathering) (k : FetchKind) (y : Peer) (A : Nat) (c : UInt16) (t : Token) :
    Gathering :=
  { x with token := moveToken x.token k y A c t }

variable {k' : FetchKind} {b' A' : Nat} {c' : UInt16} {t : Token} {y' : Peer}

@[simp] theorem setToken_self : (x.setToken k y A c t).token k y A c = t := by
  simp [setToken, moveToken]

theorem setToken_of_ne (hne : ¬ (k' = k ∧ y' = y ∧ A' = A ∧ c' = c)) :
    (x.setToken k y A c t).token k' y' A' c' = x.token k' y' A' c' := if_neg hne

/-- The token that `z` waits for is another one. -/
theorem held_setToken_of_ne (hne : ¬ (k' = k ∧ holder L k' z c' = some y ∧ A' = A ∧ c' = c)) :
    held L (x.setToken k y A c t).token k' z A' c' = held L x.token k' z A' c' := by
  unfold held
  split
  · next y' hy' =>
    refine setToken_of_ne fun hc => hne ⟨hc.1, ?_, hc.2.2⟩
    rw [hy', hc.2.1]
  · rfl

/-- A token that was sent moves on. -/
theorem Tokens.set (h : Tokens L x.committed x.token) (hidle : x.token k y A c ≠ .idle)
    (ht : t ≠ .idle) (hasked : ∀ j, t ≠ .asked j)
    (hpending : ∀ j, t = .pending j → j < L.numSL A ∧ k.trigger c ∉ x.committed (A, j))
    (hserved : (∃ i, t = .answered i) ∨ t = .done →
      ∃ j < L.numSL A, k.trigger c ∈ x.committed (A, j))
    (hanswered : ∀ i, t = .answered i → i < L.numSL y.1 ∧ holder L k (y.1, i) c = some y) :
    Tokens L x.committed (x.setToken k y A c t).token := by
  refine ⟨fun k' y' A' c' => ?_, fun k' y' A' c' j hj => ?_, fun k' y' A' c' hs => ?_,
    fun k' y' A' c' i hi => ?_, fun k' y' A' c' j hj => ?_⟩
  all_goals by_cases heq : k' = k ∧ y' = y ∧ A' = A ∧ c' = c
  · obtain ⟨rfl, rfl, rfl, rfl⟩ := heq
    rw [setToken_self, ← h.asked]
    exact ⟨fun _ => hidle, fun _ => ht⟩
  · rw [setToken_of_ne heq]
    exact h.asked k' y' A' c'
  · obtain ⟨rfl, rfl, rfl, rfl⟩ := heq
    rw [setToken_self] at hj
    exact hpending j hj
  · rw [setToken_of_ne heq] at hj
    exact h.pending k' y' A' c' j hj
  · obtain ⟨rfl, rfl, rfl, rfl⟩ := heq
    rw [setToken_self] at hs
    exact hserved hs
  · rw [setToken_of_ne heq] at hs
    exact h.served k' y' A' c' hs
  · obtain ⟨rfl, rfl, rfl, rfl⟩ := heq
    rw [setToken_self] at hi
    exact hanswered i hi
  · rw [setToken_of_ne heq] at hi
    exact h.answered_lt k' y' A' c' i hi
  · obtain ⟨rfl, rfl, rfl, rfl⟩ := heq
    rw [setToken_self] at hj
    exact absurd hj (hasked j)
  · rw [setToken_of_ne heq] at hj
    exact h.asked_lt k' y' A' c' j hj

/-- A token that is not done and does not become done opens no gate and fills no queue. -/
theorem setToken_done (hold : x.token k y A c ≠ .done) (hnew : t ≠ .done) :
    (x.setToken k y A c t).token k' y' A' c' = .done ↔ x.token k' y' A' c' = .done := by
  by_cases heq : k' = k ∧ y' = y ∧ A' = A ∧ c' = c
  · obtain ⟨rfl, rfl, rfl, rfl⟩ := heq
    rw [setToken_self]
    exact ⟨fun h => absurd h hnew, fun h => absurd h hold⟩
  · rw [setToken_of_ne heq]

/-- A token that is done stays done. -/
theorem done_setToken (hold : x.token k y A c ≠ .done) (h : x.token k' y' A' c' = .done) :
    (x.setToken k y A c t).token k' y' A' c' = .done := by
  rw [setToken_of_ne]
  · exact h
  · rintro ⟨rfl, rfl, rfl, rfl⟩
    exact hold h

/-- What `z` waits for is done as before when all tokens are. -/
theorem held_done_congr {token token' : FetchKind → Peer → Nat → UInt16 → Token}
    (h : ∀ k y A c, token' k y A c = .done ↔ token k y A c = .done) :
    held L token' k z A c = .done ↔ held L token k z A c = .done := by
  unfold held
  split
  · exact h _ _ _ _
  · rfl

/-- Tokens that are done as before keep the rest of the invariant. -/
theorem Inv.congr_token (h : x.Inv L) {token : FetchKind → Peer → Nat → UInt16 → Token}
    (htokens : Tokens L x.committed token)
    (hdone : ∀ k y A c, token k y A c = .done ↔ x.token k y A c = .done) :
    ({ x with token := token } : Gathering).Inv L :=
  { h with
    toTokens := htokens
    gate := fun y c hy => (h.gate y c hy).imp fun A => (hdone .result y A c).mpr
    followed := fun k b c => (h.followed k b c).trans
      (Layout.AllOthers.congr fun _ => (held_done_congr hdone).symm)
    taken := fun k b A c hd => h.taken k b A c ((held_done_congr hdone).mp hd) }

theorem Inv.setToken (h : x.Inv L) (htokens : Tokens L x.committed (x.setToken k y A c t).token)
    (hold : x.token k y A c ≠ .done) (hnew : t ≠ .done) : (x.setToken k y A c t).Inv L :=
  h.congr_token htokens fun _ _ _ _ => setToken_done hold hnew

/-- A request waits at an SL whose answer is not ready. -/
theorem Inv.hold (h : x.Inv L) (htoken : x.token k y A c = .asked j) (hj : j < L.numSL A)
    (hready : k.trigger c ∉ x.committed (A, j)) : (x.setToken k y A c (.pending j)).Inv L := by
  refine h.setToken (h.toTokens.set (by simp [htoken]) (by simp) (by simp) ?_ (by simp) (by simp))
    (by simp [htoken]) (by simp)
  rintro j' hj'
  cases hj'
  exact ⟨hj, hready⟩

/-- A request is answered by an SL whose answer is ready. -/
theorem Inv.answer (h : x.Inv L) (htoken : x.token k y A c = .asked j) (hj : j < L.numSL A)
    (hready : k.trigger c ∈ x.committed (A, j)) : (x.setToken k y A c (.answered y.2)).Inv L := by
  have hidle : x.token k y A c ≠ .idle := by simp [htoken]
  obtain ⟨-, hlt, -, -, hholder, -⟩ := (h.asked k y A c).mp hidle
  refine h.setToken (h.toTokens.set hidle (by simp) (by simp) (by simp) ?_ ?_)
    (by simp [htoken]) (by simp)
  · exact fun _ => ⟨j, hj, hready⟩
  · rintro i' hi'
    cases hi'
    exact ⟨hlt, hholder⟩

/-- An answer of the two later kinds is passed on to another SL of the BG. -/
theorem Inv.forward (h : x.Inv L) (hk : k ≠ .result) (htoken : x.token k y A c = .answered j)
    (hi : i < L.numSL y.1) : (x.setToken k y A c (.answered i)).Inv L := by
  have hidle : x.token k y A c ≠ .idle := by simp [htoken]
  obtain ⟨-, -, -, -, hholder, -⟩ := (h.asked k y A c).mp hidle
  refine h.setToken (h.toTokens.set hidle (by simp) (by simp) (by simp) ?_ ?_)
    (by simp [htoken]) (by simp)
  · exact fun _ => h.served k y A c (Or.inl ⟨j, htoken⟩)
  · rintro i' hi'
    cases hi'
    have hsame : holder L k (y.1, i) c = holder L k y c := holder_congr hk rfl
    exact ⟨hi, hsame.trans hholder⟩

/-! ## Taking an answer -/

/-- The tokens of one cycle are done now or were done before. -/
theorem setToken_done_iff : (x.setToken k y A c .done).token k y A' c = .done
    ↔ A' = A ∨ x.token k y A' c = .done := by
  by_cases hA : A' = A
  · subst hA
    simp
  · rw [setToken_of_ne fun hc => hA hc.2.2.1]
    simp [hA]

/-- What made an SL send a request is in the log of its BG. -/
theorem Inv.trigger_of_token (h : x.Inv L) (hidle : x.token k y A c ≠ .idle) :
    k.trigger c ∈ x.log y.1 := by
  obtain ⟨-, hlt, -, -, -, hmem⟩ := (h.asked k y A c).mp hidle
  exact h.mem_log hlt hmem

section Take

variable (h : x.Inv L) (htoken : x.token k y A c = .answered i)
  (htaken : holder L k (y.1, 0) c = some y → k.trigger c ∈ x.committed (y.1, 0))

include h htoken

theorem Inv.tokens_done : Tokens L x.committed (x.setToken k y A c .done).token := by
  refine h.toTokens.set (by simp [htoken]) (by simp) (by simp) (by simp) ?_ (by simp)
  exact fun _ => h.served k y A c (Or.inl ⟨i, htoken⟩)

theorem Inv.gate_done : ∀ z c', .localConnectivity c' ∈ x.accepted z →
    L.AllOthers z.1 fun A' => (x.setToken k y A c .done).token .result z A' c' = .done :=
  fun z c' hz => (h.gate z c' hz).imp fun _ => done_setToken (by simp [htoken])

include htaken

theorem Inv.taken_done (hdone : held L (x.setToken k y A c .done).token k' (b', 0) A' c' = .done) :
    k'.trigger c' ∈ x.committed (b', 0) := by
  by_cases heq : k' = k ∧ holder L k' (b', 0) c' = some y ∧ A' = A ∧ c' = c
  · obtain ⟨rfl, hholder, rfl, rfl⟩ := heq
    obtain rfl : y.1 = b' := holder_bg hholder
    exact htaken hholder
  · rw [held_setToken_of_ne heq] at hdone
    exact h.taken k' b' A' c' hdone

/-- An answer is taken, and the leader waits for more or for others. -/
theorem Inv.receive (hmore : holder L k (y.1, 0) c = some y →
      ¬ L.AllOthers y.1 fun A' => (x.setToken k y A c .done).token k y A' c = .done) :
    (x.setToken k y A c .done).Inv L := by
  refine { h with
    toTokens := h.tokens_done htoken
    gate := h.gate_done htoken
    followed := fun k' b' c' => (h.followed k' b' c').trans ?_
    taken := fun k' b' A' c' hdone => h.taken_done htoken htaken hdone }
  by_cases heq : k' = k ∧ holder L k' (b', 0) c' = some y ∧ c' = c
  · obtain ⟨rfl, hholder, rfl⟩ := heq
    obtain rfl : y.1 = b' := holder_bg hholder
    refine iff_of_false (fun hall => hmore hholder (hall.imp fun A' hA' => ?_))
      fun hall => hmore hholder (hall.imp fun A' hA' => ?_)
    · rw [setToken_done_iff]
      exact Or.inr ((held_eq hholder).symm.trans hA')
    · exact (held_eq hholder).symm.trans hA'
  · refine Layout.AllOthers.congr fun A' => ?_
    rw [held_setToken_of_ne fun hc => heq ⟨hc.1, hc.2.1, hc.2.2.2⟩]

/-- The leader takes the last answer and queues what follows. -/
theorem Inv.receive_last (hholder : holder L k (y.1, 0) c = some y)
    (hlast : L.AllOthers y.1 fun A' => (x.setToken k y A c .done).token k y A' c = .done) :
    ((x.setToken k y A c .done).push y.1 (k.follow c)).Inv L := by
  have hidle : x.token k y A c ≠ .idle := by simp [htoken]
  have hnew : k.follow c ∉ x.log y.1 ++ x.queue y.1 := by
    rw [h.followed]
    intro hall
    obtain ⟨-, -, hA, hne, -, -⟩ := (h.asked k y A c).mp hidle
    have hdone : held L x.token k (y.1, 0) A c = .done := hall.2 A hA hne
    rw [held_eq hholder, htoken] at hdone
    exact Token.noConfusion hdone
  refine { h with
    toTokens := h.tokens_done htoken
    nodup := Exchange.push_nodup (x := (x.setToken k y A c .done).plain) h.nodup hnew
    queued := push_queued (x := x.setToken k y A c .done) h.queued (k.follow_ne_client c)
      fun e' hn => hn.of_follow ▸ h.trigger_of_token hidle
    known := fun b' e' he' hclient => ((mem_push b').mp he').elim
      (fun he' => h.known b' e' he' hclient) fun he' => ⟨k, c, he'.2⟩
    gate := h.gate_done htoken
    followed := fun k' b' c' => ?_
    taken := fun k' b' A' c' hdone => h.taken_done htoken htaken hdone }
  rw [mem_push]
  show k'.follow c' ∈ x.log b' ++ x.queue b' ∨ _ ↔ L.AllOthers b' fun A' =>
    held L (x.setToken k y A c .done).token k' (b', 0) A' c' = .done
  by_cases heq : k' = k ∧ holder L k' (b', 0) c' = some y ∧ c' = c
  · obtain ⟨rfl, hholder', rfl⟩ := heq
    obtain rfl : y.1 = b' := holder_bg hholder'
    exact iff_of_true (Or.inr ⟨rfl, rfl⟩) (hlast.imp fun A' hA' => (held_eq hholder').trans hA')
  · rw [or_iff_left, h.followed]
    · refine Layout.AllOthers.congr fun A' => ?_
      rw [held_setToken_of_ne fun hc => heq ⟨hc.1, hc.2.1, hc.2.2.2⟩]
    · rintro ⟨rfl, hc⟩
      obtain ⟨rfl, rfl⟩ := FetchKind.follow_inj hc
      exact heq ⟨rfl, hholder, rfl⟩

end Take

/-! ## Committing the last entry -/

/-- An SL commits the last entry of a cycle, which triggers nothing. -/
theorem Inv.commit_fullMembership (h : x.Inv L) (hx : x.Next L y (.fullMembership c)) :
    (x.commit y (.fullMembership c)).Inv L := by
  have hmem : ∀ (k : FetchKind) c' z, k.trigger c' ∈ (x.commit y (.fullMembership c)).committed z
      ↔ k.trigger c' ∈ x.committed z :=
    fun k c' z => mem_commit_of_ne z (k.trigger_ne_fullMembership c' c)
  refine { h with
    toTokens := ⟨fun k y' A c' => ?_, fun k y' A c' j hj => ?_, fun k y' A c' hs => ?_,
      h.answered_lt, h.asked_lt⟩
    committed_log := h.commit_committed_log hx
    close := h.commit_close hx
    accepted := h.commit_accepted hx
    taken := fun k' b' A' c' hdone => commit_subset _ (h.taken k' b' A' c' hdone) }
  · simp only [hmem]
    exact h.asked k y' A c'
  · rw [hmem]
    exact h.pending k y' A c' j hj
  · simp only [hmem]
    exact h.served k y' A c' hs

/-! ## Committing what triggers a request -/

/--
The tokens after SL `y` has committed the trigger of a kind for a cycle: it answers what waits for
it, and if it asks for the kind it asks SL `draw A` of each other BG `A`.
-/
def triggerToken (L : Layout) (x : Gathering) (y : Peer) (k : FetchKind) (c : UInt16)
    (draw : Nat → Nat) (k' : FetchKind) (z : Peer) (A : Nat) (c' : UInt16) : Token :=
  if k' = k ∧ c' = c then
    if z = y ∧ y.1 < L.numBG ∧ A < L.numBG ∧ A ≠ y.1 ∧ holder L k y c = some y then
      .asked (draw A)
    else if A = y.1 ∧ x.token k z A c = .pending y.2 then .answered z.2
    else x.token k z A c
  else x.token k' z A c'

def trigger (L : Layout) (x : Gathering) (y : Peer) (k : FetchKind) (c : UInt16)
    (draw : Nat → Nat) : Gathering :=
  { x.commit y (k.trigger c) with token := x.triggerToken L y k c draw }

section Trigger

variable {draw : Nat → Nat} (h : x.Inv L) (hx : x.Next L y (k.trigger c))

theorem triggerToken_of_ne (hne : ¬ (k' = k ∧ c' = c)) :
    x.triggerToken L y k c draw k' z A c' = x.token k' z A c' := if_neg hne

/-- The cases of a token of the kind and the cycle. -/
theorem triggerToken_cases (draw : Nat → Nat) (z : Peer) (A : Nat) :
    (z = y ∧ y.1 < L.numBG ∧ A < L.numBG ∧ A ≠ y.1 ∧ holder L k y c = some y
      ∧ x.triggerToken L y k c draw k z A c = .asked (draw A))
    ∨ (A = y.1 ∧ x.token k z A c = .pending y.2
      ∧ x.triggerToken L y k c draw k z A c = .answered z.2)
    ∨ (¬ (z = y ∧ y.1 < L.numBG ∧ A < L.numBG ∧ A ≠ y.1 ∧ holder L k y c = some y)
      ∧ ¬ (A = y.1 ∧ x.token k z A c = .pending y.2)
      ∧ x.triggerToken L y k c draw k z A c = x.token k z A c) := by
  unfold triggerToken
  rw [if_pos ⟨rfl, rfl⟩]
  split
  · next hc => exact Or.inl ⟨hc.1, hc.2.1, hc.2.2.1, hc.2.2.2.1, hc.2.2.2.2, rfl⟩
  · next hc =>
    split
    · next hp => exact Or.inr (Or.inl ⟨hp.1, hp.2, rfl⟩)
    · next hp => exact Or.inr (Or.inr ⟨hc, hp, rfl⟩)

include h hx

/-- Nobody has asked before its trigger. -/
theorem Inv.idle_of_next : x.token k y A c = .idle := by
  by_contra hidle
  exact h.next_notMem hx ((h.asked k y A c).mp hidle).2.2.2.2.2

theorem Inv.triggerToken_done (k' : FetchKind) (z : Peer) (A : Nat) (c' : UInt16) :
    x.triggerToken L y k c draw k' z A c' = .done ↔ x.token k' z A c' = .done := by
  by_cases heq : k' = k ∧ c' = c
  · obtain ⟨rfl, rfl⟩ := heq
    rcases triggerToken_cases draw z A (L := L) (x := x) (y := y) (k := k') (c := c') with
      ⟨rfl, -, -, -, -, htok⟩ | ⟨-, hp, htok⟩ | ⟨-, -, htok⟩
    · rw [htok, h.idle_of_next hx]
      simp
    · rw [htok, hp]
      simp
    · rw [htok]
  · rw [triggerToken_of_ne heq]

theorem Inv.tokens_trigger (hdraw : ∀ A, 0 < L.numSL A → draw A < L.numSL A) :
    Tokens L (x.commit y (k.trigger c)).committed (x.triggerToken L y k c draw) := by
  have hother : ∀ {k' : FetchKind} {c'} z, ¬ (k' = k ∧ c' = c) →
      (k'.trigger c' ∈ (x.commit y (k.trigger c)).committed z
        ↔ k'.trigger c' ∈ x.committed z) :=
    fun z hne => mem_commit_of_ne z fun heq => hne (FetchKind.trigger_inj heq)
  have hself : k.trigger c ∈ (x.commit y (k.trigger c)).committed y := by
    rw [commit_committed, if_pos rfl]
    simp
  refine ⟨fun k' z A c' => ?_, fun k' z A c' j hj => ?_, fun k' z A c' hs => ?_,
    fun k' z A c' i hi => ?_, fun k' z A c' j hj hn => ?_⟩
  all_goals by_cases heq : k' = k ∧ c' = c
  · obtain ⟨rfl, rfl⟩ := heq
    rcases triggerToken_cases draw z A (L := L) (x := x) (y := y) (k := k') (c := c') with
      ⟨rfl, hb, hA, hne, hholder, htok⟩ | ⟨hA, hp, htok⟩ | ⟨hn, -, htok⟩
    · rw [htok]
      exact iff_of_true (by simp) ⟨hb, hx.lt, hA, hne, hholder, hself⟩
    · rw [htok]
      obtain ⟨hb, hlt, hA', hne, hholder, hmem⟩ := (h.asked k' z A c').mp (by simp [hp])
      exact iff_of_true (by simp) ⟨hb, hlt, hA', hne, hholder, commit_subset _ hmem⟩
    · rw [htok, h.asked]
      refine and_congr_right fun hb => and_congr_right fun hlt => and_congr_right fun hA =>
        and_congr_right fun hne => and_congr_right fun hholder => ?_
      rw [commit_committed, if_neg]
      rintro rfl
      exact hn ⟨rfl, hb, hA, hne, hholder⟩
  · rw [triggerToken_of_ne heq, h.asked]
    simp only [hother _ heq]
  · obtain ⟨rfl, rfl⟩ := heq
    rcases triggerToken_cases draw z A (L := L) (x := x) (y := y) (k := k') (c := c') with
      ⟨-, -, -, -, -, htok⟩ | ⟨-, -, htok⟩ | ⟨-, hn, htok⟩
    · simp [htok] at hj
    · simp [htok] at hj
    · rw [htok] at hj
      obtain ⟨hlt, hmem⟩ := h.pending _ _ _ _ _ hj
      refine ⟨hlt, ?_⟩
      rw [commit_committed, if_neg]
      · exact hmem
      · rintro rfl
        exact hn ⟨rfl, hj⟩
  · rw [triggerToken_of_ne heq] at hj
    rw [hother _ heq]
    exact h.pending _ _ _ _ _ hj
  · obtain ⟨rfl, rfl⟩ := heq
    rcases triggerToken_cases draw z A (L := L) (x := x) (y := y) (k := k') (c := c') with
      ⟨-, -, -, -, -, htok⟩ | ⟨hA, hp, htok⟩ | ⟨-, -, htok⟩
    · simp [htok] at hs
    · subst hA
      exact ⟨y.2, hx.lt, hself⟩
    · rw [htok] at hs
      obtain ⟨j, hj, hmem⟩ := h.served _ _ _ _ hs
      exact ⟨j, hj, commit_subset _ hmem⟩
  · rw [triggerToken_of_ne heq] at hs
    simp only [hother _ heq]
    exact h.served _ _ _ _ hs
  · obtain ⟨rfl, rfl⟩ := heq
    rcases triggerToken_cases draw z A (L := L) (x := x) (y := y) (k := k') (c := c') with
      ⟨-, -, -, -, -, htok⟩ | ⟨-, hp, htok⟩ | ⟨-, -, htok⟩
    · simp [htok] at hi
    · obtain ⟨-, hlt, -, -, hholder, -⟩ := (h.asked k' z A c').mp (by simp [hp])
      rw [htok] at hi
      cases hi
      exact ⟨hlt, hholder⟩
    · rw [htok] at hi
      exact h.answered_lt _ _ _ _ _ hi
  · rw [triggerToken_of_ne heq] at hi
    exact h.answered_lt _ _ _ _ _ hi
  · obtain ⟨rfl, rfl⟩ := heq
    rcases triggerToken_cases draw z A (L := L) (x := x) (y := y) (k := k') (c := c') with
      ⟨-, -, -, -, -, htok⟩ | ⟨-, -, htok⟩ | ⟨-, -, htok⟩
    · rw [htok] at hj
      obtain rfl : draw A = j := by simpa using hj
      exact hdraw A hn
    · simp [htok] at hj
    · rw [htok] at hj
      exact h.asked_lt _ _ _ _ _ hj hn
  · rw [triggerToken_of_ne heq] at hj
    exact h.asked_lt _ _ _ _ _ hj hn

/-- An SL commits an entry that triggers requests and answers. -/
theorem Inv.trigger (hdraw : ∀ A, 0 < L.numSL A → draw A < L.numSL A) :
    (x.trigger L y k c draw).Inv L :=
  { h with
    toTokens := h.tokens_trigger hx hdraw
    committed_log := h.commit_committed_log hx
    close := h.commit_close hx
    accepted := h.commit_accepted hx
    gate := fun z c' hz => (h.gate z c' hz).imp fun A => (h.triggerToken_done hx .result z A c').mpr
    followed := fun k' b c' => (h.followed k' b c').trans
      (Layout.AllOthers.congr fun _ => (held_done_congr (h.triggerToken_done hx)).symm)
    taken := fun k' b A c' hdone => commit_subset _
      (h.taken k' b A c' ((held_done_congr (h.triggerToken_done hx)).mp hdone)) }

end Trigger

end Gathering

end RCanopus.Hybrid
