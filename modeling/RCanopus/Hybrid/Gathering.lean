import RCanopus.Exchange

/-!
# Round 3 of the hybrid variant in the abstract

Every SL gathers the results of a cycle for itself, and a BG certifies its connectivity only when
each of its SLs has all of them: the Preprepare for it passes a gate at every SL. After that the BGs
exchange their connectivity and their membership through one envoy, as in `Exchange`.

A BG is its log, what its leader has queued, and what each SL has accepted and committed. Each
request has a token, which says where it or its answer is. The request belongs to the SL that sent
it.
-/

namespace RCanopus.Hybrid

/-- What an entry of the log needs: the three pieces of news follow the client entry in turn. -/
inductive Needs : Entry → Entry → Prop
  | follow (k : FetchKind) (c : UInt16) : Needs (k.follow c) (k.trigger c)

theorem Needs.ne_client {e e' : Entry} (h : Needs e e') (c : UInt16) : e ≠ .client c := by
  cases h with
  | follow k c' => exact k.follow_ne_client c' c

theorem Needs.of_follow {k : FetchKind} {c : UInt16} {e : Entry} (h : Needs (k.follow c) e) :
    e = k.trigger c := by
  generalize he : k.follow c = e' at h
  cases h with
  | follow k' c' =>
    obtain ⟨rfl, rfl⟩ := FetchKind.follow_inj he
    rfl

structure Gathering where
  log : Nat → List Entry
  /-- What the leader has queued and not issued. -/
  queue : Nat → List Entry
  accepted : Peer → List Entry
  committed : Peer → List Entry
  /-- The token of a kind, from one SL to a BG, for a cycle. -/
  token : FetchKind → Peer → Nat → UInt16 → Token

/--
The SL of the BG of `z` whose request the answers that reach `z` belong to: everybody asks for the
results on its own, and the envoy asks for the rest.
-/
def holder (L : Layout) (k : FetchKind) (z : Peer) (c : UInt16) : Option Peer :=
  if k = .result then some z else (L.envoy z.1 c).map fun i => (z.1, i)

/-- The token of the request whose answer reaches `z`. -/
def held (L : Layout) (token : FetchKind → Peer → Nat → UInt16 → Token) (k : FetchKind) (z : Peer)
    (A : Nat) (c : UInt16) : Token :=
  match holder L k z c with
  | some y => token k y A c
  | none => .idle

section Holder

variable {L : Layout} {token : FetchKind → Peer → Nat → UInt16 → Token} {k : FetchKind}
  {y z : Peer} {A : Nat} {c : UInt16}

@[simp] theorem holder_result : holder L .result z c = some z := rfl

@[simp] theorem held_result : held L token .result z A c = token .result z A c := rfl

theorem holder_bg (h : holder L k z c = some y) : y.1 = z.1 := by
  unfold holder at h
  split at h
  · rw [Option.some.inj h]
  · obtain ⟨i, -, rfl⟩ := Option.map_eq_some_iff.mp h
    rfl

/-- The SLs of a BG have the same envoy. -/
theorem holder_congr {z' : Peer} (hk : k ≠ .result) (hz : z'.1 = z.1) :
    holder L k z' c = holder L k z c := by
  unfold holder
  rw [if_neg hk, if_neg hk, hz]

theorem held_congr {z' : Peer} (hk : k ≠ .result) (hz : z'.1 = z.1) :
    held L token k z' A c = held L token k z A c := by
  unfold held
  rw [holder_congr hk hz]

theorem held_eq (h : holder L k z c = some y) : held L token k z A c = token k y A c := by
  unfold held
  rw [h]

/-- The token that is held belongs to somebody, unless it is idle. -/
theorem exists_holder (h : held L token k z A c ≠ .idle) :
    ∃ y, holder L k z c = some y ∧ y.1 = z.1 ∧ held L token k z A c = token k y A c := by
  cases hy : holder L k z c with
  | none =>
    unfold held at h
    rw [hy] at h
    exact absurd rfl h
  | some y => exact ⟨y, rfl, holder_bg hy, held_eq hy⟩

end Holder

namespace Gathering

/-- Where the tokens can be, given what the SLs have committed. -/
structure Tokens (L : Layout) (committed : Peer → List Entry)
    (token : FetchKind → Peer → Nat → UInt16 → Token) : Prop where
  asked : ∀ k y A c, token k y A c ≠ .idle ↔ y.1 < L.numBG ∧ y.2 < L.numSL y.1 ∧ A < L.numBG
    ∧ A ≠ y.1 ∧ holder L k y c = some y ∧ k.trigger c ∈ committed y
  pending : ∀ k y A c j, token k y A c = .pending j →
    j < L.numSL A ∧ k.trigger c ∉ committed (A, j)
  served : ∀ k y A c, ((∃ i, token k y A c = .answered i) ∨ token k y A c = .done) →
    ∃ j < L.numSL A, k.trigger c ∈ committed (A, j)
  answered_lt : ∀ k y A c i, token k y A c = .answered i →
    i < L.numSL y.1 ∧ holder L k (y.1, i) c = some y
  asked_lt : ∀ k y A c j, token k y A c = .asked j → 0 < L.numSL A → j < L.numSL A

/-- **The invariant of the gathering.** -/
structure Inv (L : Layout) (x : Gathering) : Prop extends Tokens L x.committed x.token where
  nodup : ∀ b, (x.log b ++ x.queue b).Nodup
  grounded : ∀ b, Grounded Needs (x.log b)
  queued : ∀ b, ∀ e ∈ x.queue b, (∀ c, e ≠ .client c) ∧ ∀ e', Needs e e' → e' ∈ x.log b
  known : ∀ b, ∀ e ∈ x.log b ++ x.queue b,
    (∀ c, e ≠ .client c) → ∃ (k : FetchKind) (c : UInt16), e = k.follow c
  committed_log : ∀ b, ∀ i < L.numSL b, x.committed (b, i) <+: x.log b
  close : ∀ b, ∀ i < L.numSL b, ∀ j < L.numSL b,
    (x.committed (b, i)).length ≤ (x.committed (b, j)).length + 1
  /-- What one SL has committed, all have accepted. -/
  accepted : ∀ b, ∀ i < L.numSL b, ∀ j < L.numSL b, x.committed (b, i) ⊆ x.accepted (b, j)
  /-- The gate. -/
  gate : ∀ y c, .localConnectivity c ∈ x.accepted y →
    L.AllOthers y.1 fun A => x.token .result y A c = .done
  /-- What the leader queues, and when. -/
  followed : ∀ k b c, k.follow c ∈ x.log b ++ x.queue b
    ↔ L.AllOthers b fun A => held L x.token k (b, 0) A c = .done
  taken : ∀ k b A c, held L x.token k (b, 0) A c = .done → k.trigger c ∈ x.committed (b, 0)

/-- The next entry that an SL commits; all SLs of its BG have accepted it, and none is behind. -/
structure Next (L : Layout) (x : Gathering) (y : Peer) (e : Entry) : Prop where
  lt : y.2 < L.numSL y.1
  next : ∃ l, x.log y.1 = x.committed y ++ e :: l
  first : ∀ j < L.numSL y.1, (x.committed y).length ≤ (x.committed (y.1, j)).length
  accepted : ∀ j < L.numSL y.1, e ∈ x.accepted (y.1, j)

variable {L : Layout} {x : Gathering} {b A i j : Nat} {c : UInt16} {k : FetchKind} {y : Peer}
  {e e' : Entry}

/-! ## Consequences -/

namespace Inv

variable (h : x.Inv L)

include h

theorem mem_log (hi : i < L.numSL b) (he : e ∈ x.committed (b, i)) : e ∈ x.log b :=
  (h.committed_log b i hi).subset he

theorem mem_all (hi : i < L.numSL b) (he : e ∈ x.committed (b, i)) : e ∈ x.log b ++ x.queue b :=
  List.mem_append_left _ (h.mem_log hi he)

/-- What a committed entry needs is committed. -/
theorem needs_committed (hi : i < L.numSL b) (he : e ∈ x.committed (b, i)) (hn : Needs e e') :
    e' ∈ x.committed (b, i) :=
  ((h.grounded b).of_isPrefix (h.committed_log b i hi)).mem he hn

/-- What a committed entry needs is committed by all SLs of the BG. -/
theorem needs_behind (hi : i < L.numSL b) (he : e ∈ x.committed (b, i)) (hn : Needs e e')
    (hj : j < L.numSL b) : e' ∈ x.committed (b, j) :=
  (h.grounded b).mem_behind (h.committed_log b i hi) (h.committed_log b j hj)
    (h.close b i hi j hj) he hn

/-- What a queued or issued entry needs was issued. -/
theorem needs_log (he : e ∈ x.log b ++ x.queue b) (hn : Needs e e') : e' ∈ x.log b := by
  rcases List.mem_append.mp he with he | he
  · exact (h.grounded b).mem he hn
  · exact (h.queued b e he).2 e' hn

/-- The connectivity is committed before the membership and before the end of a cycle. -/
theorem connectivity_committed (hi : i < L.numSL b) (hk : k ≠ .result)
    (he : k.trigger c ∈ x.committed (b, i)) : .localConnectivity c ∈ x.committed (b, i) := by
  cases k with
  | result => exact absurd rfl hk
  | connectivity => exact he
  | membership => exact h.needs_committed hi he (.follow .connectivity c)

theorem client_behind (hi : i < L.numSL b) (hk : k ≠ .result)
    (he : k.trigger c ∈ x.committed (b, i)) (hj : j < L.numSL b) :
    .client c ∈ x.committed (b, j) :=
  h.needs_behind hi (h.connectivity_committed hi hk he) (.follow .result c) hj

/-- **A BG that has certified its connectivity has all results at every SL.** -/
theorem all_results (hi : i < L.numSL b) (he : .localConnectivity c ∈ x.committed (b, i))
    (hj : j < L.numSL b) : L.AllOthers b fun A => x.token .result (b, j) A c = .done :=
  h.gate (b, j) c (h.accepted b i hi j hj he)

/-- A request goes to another BG. -/
theorem two_of_token (hidle : x.token k y A c ≠ .idle) : 2 ≤ L.numBG := by
  obtain ⟨hb, -, hA, hne, -⟩ := (h.asked k y A c).mp hidle
  omega

/-- The holder of a token is an SL of its BG. -/
theorem holder_lt (hidle : x.token k y A c ≠ .idle) : y.2 < L.numSL y.1 :=
  ((h.asked k y A c).mp hidle).2.1

/-! ### Who has waited for whom -/

/-- The leader that follows up on the answers of a kind has committed what asked for them. -/
theorem trigger_of_follow (he : k.follow c ∈ x.log b ++ x.queue b) :
    k.trigger c ∈ x.committed (b, 0) ∧ 0 < L.numSL b := by
  obtain ⟨A, hA⟩ := ((h.followed k b c).mp he).exists
  refine ⟨h.taken k b A c hA, ?_⟩
  have hheld : held L x.token k (b, 0) A c ≠ .idle := by
    rw [hA]
    simp
  obtain ⟨y, -, hy, heq⟩ := exists_holder hheld
  have hlt := h.holder_lt (k := k) (y := y) (A := A) (c := c) (by rw [← heq, hA]; simp)
  rw [hy] at hlt
  exact Nat.lt_of_le_of_lt (Nat.zero_le _) hlt

/-- The membership of a BG is queued after it has the connectivity and the results of all others. -/
theorem token_localMembership (he : .localMembership c ∈ x.log b ++ x.queue b)
    (hA : A < L.numBG) (hne : A ≠ b) : held L x.token .connectivity (b, 0) A c = .done
      ∧ ∀ j < L.numSL b, x.token .result (b, j) A c = .done := by
  obtain ⟨hconn, hn⟩ := h.trigger_of_follow (k := .connectivity) he
  exact ⟨((h.followed .connectivity b c).mp he).2 A hA hne,
    fun j hj => (h.all_results hn hconn hj).2 A hA hne⟩

/--
A BG closes a cycle after all others have replicated its connectivity, so their requests for the
result and for the connectivity were answered before.
-/
theorem token_of_closed (he : .fullMembership c ∈ x.log A ++ x.queue A) (hb : b < L.numBG)
    (hne : b ≠ A) (hA : A < L.numBG) : held L x.token .connectivity (b, 0) A c = .done
      ∧ ∀ j < L.numSL b, x.token .result (b, j) A c = .done := by
  have hdone := ((h.followed .membership A c).mp he).2 b hb hne
  obtain ⟨y, -, -, heq⟩ := exists_holder
    (show held L x.token .membership (A, 0) b c ≠ .idle by rw [hdone]; simp)
  obtain ⟨j, hj, hmem⟩ := h.served .membership y b c (Or.inr (heq ▸ hdone))
  exact h.token_localMembership (h.mem_all hj hmem) hA (Ne.symm hne)

theorem not_closed (hk : k ≠ .membership) (hidle : x.token k y A c ≠ .idle)
    (hdone : x.token k y A c ≠ .done) : .fullMembership c ∉ x.log A ++ x.queue A := by
  intro he
  obtain ⟨hb, hlt, hA, hne, hholder, -⟩ := (h.asked k y A c).mp hidle
  obtain ⟨hconn, hresult⟩ := h.token_of_closed he hb (Ne.symm hne) hA
  cases k with
  | result => exact hdone (hresult y.2 hlt)
  | connectivity =>
    rw [held_eq (y := y)] at hconn
    · exact hdone hconn
    · rw [← hholder]
      exact holder_congr (by simp) rfl
  | membership => exact hk rfl

/-- A BG that is asked for the membership has committed the client Preprepare everywhere. -/
theorem client_of_asked (hidle : x.token .membership y A c ≠ .idle) (hj : j < L.numSL A) :
    .client c ∈ x.committed (A, j) := by
  obtain ⟨hb, hlt, hA, hne, -, hmem⟩ := (h.asked _ y A c).mp hidle
  obtain ⟨hdone, -⟩ := h.token_localMembership (h.mem_all hlt hmem) hA hne
  obtain ⟨z, -, -, heq⟩ := exists_holder
    (show held L x.token .connectivity (y.1, 0) A c ≠ .idle by rw [hdone]; simp)
  obtain ⟨j', hj', hmem'⟩ := h.served .connectivity z A c (Or.inr (heq ▸ hdone))
  exact h.client_behind hj' (by simp) hmem' hj

/-- While an answer is missing, the cycle is not closed where it is to arrive. -/
theorem home_open (hidle : x.token k y A c ≠ .idle) (hdone : x.token k y A c ≠ .done)
    (hj : j < L.numSL y.1) (hholder : holder L k (y.1, j) c = some y) :
    .client c ∈ x.committed (y.1, j) ∧ .fullMembership c ∉ x.log y.1 ++ x.queue y.1 := by
  obtain ⟨-, hlt, hA, hne, -, hmem⟩ := (h.asked k y A c).mp hidle
  cases k with
  | result =>
    have hself : (y.1, j) = y := Option.some.inj hholder
    refine ⟨hself ▸ hmem, fun he => ?_⟩
    obtain ⟨hmember, hn⟩ := h.trigger_of_follow (k := .membership) he
    have hconn := h.connectivity_committed hn (by simp) hmember
    exact hdone ((h.all_results hn hconn hlt).2 A hA hne)
  | connectivity =>
    have hzero : holder L .connectivity (y.1, 0) c = some y :=
      (holder_congr (by simp) rfl).trans hholder
    refine ⟨h.client_behind hlt (by simp) hmem hj, fun he => ?_⟩
    have hmember := h.needs_log he (.follow .membership c)
    have hheld := (h.token_localMembership (List.mem_append_left _ hmember) hA hne).1
    exact hdone ((held_eq hzero).symm.trans hheld)
  | membership =>
    have hzero : holder L .membership (y.1, 0) c = some y :=
      (holder_congr (by simp) rfl).trans hholder
    refine ⟨h.client_behind hlt (by simp) hmem hj, fun he => ?_⟩
    have hheld := ((h.followed .membership y.1 c).mp he).2 A hA hne
    exact hdone ((held_eq hzero).symm.trans hheld)

/-! ### The next entry -/

theorem next_notMem (hx : x.Next L y e) : e ∉ x.committed y := by
  obtain ⟨l, hl⟩ := hx.next
  have hnodup := h.nodup y.1
  rw [hl, List.append_assoc, List.nodup_append] at hnodup
  exact fun he => hnodup.2.2 e he e List.mem_cons_self rfl

theorem next_needs (hx : x.Next L y e) (hn : Needs e e') : e' ∈ x.committed y := by
  obtain ⟨l, hl⟩ := hx.next
  exact (h.grounded y.1).mem_of_next hl hn

end Inv

theorem Next.mem_log (hx : x.Next L y e) : e ∈ x.log y.1 := by
  obtain ⟨l, hl⟩ := hx.next
  rw [hl]
  exact List.mem_append_right _ List.mem_cons_self

theorem Next.committed_log (hx : x.Next L y e) : x.committed y ++ [e] <+: x.log y.1 := by
  obtain ⟨l, hl⟩ := hx.next
  exact ⟨l, by rw [hl, List.append_assoc, List.singleton_append]⟩

/-- News of a cycle that comes after the end of the cycle is old. -/
theorem Inv.follow_committed (h : x.Inv L) (hi : i < L.numSL b)
    (hfull : .fullMembership c ∈ x.committed (b, i)) (k : FetchKind) :
    k.follow c ∈ x.committed (b, i) ∧ .client c ∈ x.committed (b, i) := by
  have hmember := h.needs_committed hi hfull (.follow .membership c)
  have hconn := h.needs_committed hi hmember (.follow .connectivity c)
  refine ⟨?_, h.needs_committed hi hconn (.follow .result c)⟩
  cases k with
  | result => exact hconn
  | connectivity => exact hmember
  | membership => exact hfull

/-- News is committed while its cycle is open, and there are other BGs. -/
theorem Inv.open_of_next (h : x.Inv L) (hx : x.Next L y (k.follow c)) : 2 ≤ L.numBG
    ∧ .client c ∈ x.committed y ∧ .fullMembership c ∉ x.committed y := by
  have hall := List.mem_append_left (x.queue y.1) hx.mem_log
  have htrigger := h.next_needs hx (.follow k c)
  refine ⟨((h.followed k y.1 c).mp hall).1, ?_, fun hfull => ?_⟩
  · cases k with
    | result => exact htrigger
    | connectivity => exact h.client_behind hx.lt (k := .connectivity) (by simp) htrigger hx.lt
    | membership => exact h.client_behind hx.lt (k := .membership) (by simp) htrigger hx.lt
  · exact h.next_notMem hx (h.follow_committed hx.lt hfull k).1

end Gathering

end RCanopus.Hybrid
