import RCanopus.ConnManager
import RCanopus.Lib.Grounded
import Mathlib.Data.List.Perm.Basic

/-!
# Round 3 in the abstract

What round 3 is for: every BG learns the result of every cycle from every other BG, and after that
which results and which connectivity the others have. A BG replicates each piece of news in its own
log before it acts on it, and a cycle goes through five kinds of entries.

Here a BG is its log, what its leader has queued for it, and how far each SL has committed. The
requests between the BGs are tokens: for each kind, each pair of BGs and each cycle there is one
token, and it says where the request or its answer is.
-/

namespace RCanopus

/-! ## Entries -/

/-- What the log of a BG says about a cycle. -/
inductive Entry where
  | client (cycle : UInt16)
  | fetched (cycle : UInt16) (bg : Nat)
  | localConnectivity (cycle : UInt16)
  | localMembership (cycle : UInt16)
  | fullMembership (cycle : UInt16)
  deriving DecidableEq, Repr

def Entry.cycle : Entry → UInt16
  | client c => c
  | fetched c _ => c
  | localConnectivity c => c
  | localMembership c => c
  | fullMembership c => c

/-- The entry that makes an SL ask the other BGs and that makes its own answer ready. -/
def FetchKind.trigger : FetchKind → UInt16 → Entry
  | .result => .client
  | .connectivity => .localConnectivity
  | .membership => .localMembership

/-- The entry that the leader queues when all answers are there. -/
def FetchKind.follow : FetchKind → UInt16 → Entry
  | .result => .localConnectivity
  | .connectivity => .localMembership
  | .membership => .fullMembership

@[simp] theorem FetchKind.cycle_trigger (k : FetchKind) (c : UInt16) : (k.trigger c).cycle = c := by
  cases k <;> rfl

theorem FetchKind.trigger_inj {k k' : FetchKind} {c c' : UInt16}
    (h : k.trigger c = k'.trigger c') : k = k' ∧ c = c' := by
  cases k <;> cases k' <;> simp_all [trigger]

theorem FetchKind.trigger_ne_fetched (k : FetchKind) (c c' : UInt16) (A : Nat) :
    k.trigger c ≠ .fetched c' A := by
  cases k <;> simp [trigger]

theorem FetchKind.follow_inj {k k' : FetchKind} {c c' : UInt16}
    (h : k.follow c = k'.follow c') : k = k' ∧ c = c' := by
  cases k <;> cases k' <;> simp_all [follow]

theorem FetchKind.follow_ne_client (k : FetchKind) (c c' : UInt16) : k.follow c ≠ .client c' := by
  cases k <;> simp [follow]

theorem FetchKind.follow_ne_fetched (k : FetchKind) (c c' : UInt16) (A : Nat) :
    k.follow c ≠ .fetched c' A := by
  cases k <;> simp [follow]

theorem FetchKind.trigger_ne_fullMembership (k : FetchKind) (c c' : UInt16) :
    k.trigger c ≠ .fullMembership c' := by
  cases k <;> simp [trigger]

/-- What an entry in the log of a BG needs. -/
inductive Needs (numBG bg : Nat) : Entry → Entry → Prop
  | fetched (c : UInt16) (A : Nat) : Needs numBG bg (.fetched c A) (.client c)
  | localConnectivity (c : UInt16) : Needs numBG bg (.localConnectivity c) (.client c)
  | results (c : UInt16) (A : Nat) (hA : A < numBG) (hne : A ≠ bg) :
    Needs numBG bg (.localConnectivity c) (.fetched c A)
  | localMembership (c : UInt16) : Needs numBG bg (.localMembership c) (.localConnectivity c)
  | fullMembership (c : UInt16) : Needs numBG bg (.fullMembership c) (.localMembership c)

/-- What an entry needs that the answers of the two later kinds lead to. -/
theorem Needs.of_follow {numBG bg : Nat} {k : FetchKind} {c : UInt16} {e : Entry}
    (h : Needs numBG bg (k.follow c) e) (hk : k ≠ .result) : e = k.trigger c := by
  cases k with
  | result => exact absurd rfl hk
  | connectivity =>
    cases h
    rfl
  | membership =>
    cases h
    rfl

theorem Needs.ne_client {numBG bg : Nat} {e e' : Entry} (h : Needs numBG bg e e') (c : UInt16) :
    e ≠ .client c := by
  cases h <;> simp

/-! ## States -/

/--
Where the request of one BG to another is: not sent, on its way to an SL, waiting at an SL, answered
with the answer on its way to an SL of the asking BG, or done.
-/
inductive Token where
  | idle
  | asked (sl : Nat)
  | pending (sl : Nat)
  | answered (sl : Nat)
  | done
  deriving DecidableEq, Repr

/-- What does not change: the sizes, and the SL of a BG that sends the requests for a cycle. -/
structure Layout where
  numBG : Nat
  numSL : Nat → Nat
  envoy : Nat → UInt16 → Option Nat

structure Exchange where
  log : Nat → List Entry
  /-- What the leader has queued and not issued. -/
  queue : Nat → List Entry
  committed : Peer → List Entry
  /-- The token of a kind, from one BG to another, for a cycle. -/
  token : FetchKind → Nat → Nat → UInt16 → Token

/-- Something holds for every other BG, and there is one. -/
def Layout.AllOthers (L : Layout) (b : Nat) (P : Nat → Prop) : Prop :=
  2 ≤ L.numBG ∧ ∀ A < L.numBG, A ≠ b → P A

theorem Layout.AllOthers.imp {L : Layout} {b : Nat} {P Q : Nat → Prop} (h : L.AllOthers b P)
    (hPQ : ∀ A, P A → Q A) : L.AllOthers b Q := by
  obtain ⟨hN, h⟩ := h
  exact ⟨hN, fun A hA hne => hPQ A (h A hA hne)⟩

theorem Layout.AllOthers.congr {L : Layout} {b : Nat} {P Q : Nat → Prop}
    (hPQ : ∀ A, P A ↔ Q A) : L.AllOthers b P ↔ L.AllOthers b Q := by
  constructor
  · exact fun h => h.imp fun A => (hPQ A).mp
  · exact fun h => h.imp fun A => (hPQ A).mpr

theorem Layout.AllOthers.exists {L : Layout} {b : Nat} {P : Nat → Prop} (h : L.AllOthers b P) :
    ∃ A, P A := by
  obtain ⟨hN, hall⟩ := h
  by_cases hb : b = 0
  · exact ⟨1, hall 1 hN (by omega)⟩
  · exact ⟨0, hall 0 (by omega) (Ne.symm hb)⟩

namespace Exchange

/-- Where the tokens can be, given what the SLs have committed. -/
structure Tokens (L : Layout) (committed : Peer → List Entry)
    (token : FetchKind → Nat → Nat → UInt16 → Token) : Prop where
  asked : ∀ k b A c, token k b A c ≠ .idle ↔ b < L.numBG ∧ A < L.numBG ∧ A ≠ b
    ∧ ∃ i < L.numSL b, L.envoy b c = some i ∧ k.trigger c ∈ committed (b, i)
  pending : ∀ k b A c j, token k b A c = .pending j →
    j < L.numSL A ∧ k.trigger c ∉ committed (A, j)
  served : ∀ k b A c, ((∃ i, token k b A c = .answered i) ∨ token k b A c = .done) →
    ∃ j < L.numSL A, k.trigger c ∈ committed (A, j)
  answered_lt : ∀ k b A c i, token k b A c = .answered i → i < L.numSL b
  asked_lt : ∀ k b A c j, token k b A c = .asked j → 0 < L.numSL A → j < L.numSL A

/-- **The invariant of the exchange.** -/
structure Inv (L : Layout) (x : Exchange) : Prop extends Tokens L x.committed x.token where
  nodup : ∀ b, (x.log b ++ x.queue b).Nodup
  grounded : ∀ b, Grounded (Needs L.numBG b) (x.log b)
  queued : ∀ b, ∀ e ∈ x.queue b,
    (∀ c, e ≠ .client c) ∧ ∀ e', Needs L.numBG b e e' → e' ∈ x.log b
  committed_log : ∀ b, ∀ i < L.numSL b, x.committed (b, i) <+: x.log b
  close : ∀ b, ∀ i < L.numSL b, ∀ j < L.numSL b,
    (x.committed (b, i)).length ≤ (x.committed (b, j)).length + 1
  /-- What the leader queues, and when. -/
  fetched : ∀ b c A, .fetched c A ∈ x.log b ++ x.queue b ↔ x.token .result b A c = .done
  localConnectivity : ∀ b c, .localConnectivity c ∈ x.log b ++ x.queue b
    ↔ L.AllOthers b fun A => .fetched c A ∈ x.committed (b, 0)
  followed : ∀ k, k ≠ .result → ∀ b c, k.follow c ∈ x.log b ++ x.queue b
    ↔ L.AllOthers b fun A => x.token k b A c = .done
  taken : ∀ k, k ≠ .result → ∀ b A c, x.token k b A c = .done →
    k.trigger c ∈ x.committed (b, 0)

/-- The next entry that an SL commits; no SL of its BG is behind it. -/
structure Next (L : Layout) (x : Exchange) (y : Peer) (e : Entry) : Prop where
  lt : y.2 < L.numSL y.1
  next : ∃ l, x.log y.1 = x.committed y ++ e :: l
  first : ∀ j < L.numSL y.1, (x.committed y).length ≤ (x.committed (y.1, j)).length

variable {L : Layout} {x : Exchange} {b A i j : Nat} {c : UInt16} {k : FetchKind} {y : Peer}
  {e e' : Entry}

/-! ## Consequences -/

namespace Inv

variable (h : x.Inv L)

include h

theorem mem_log (hi : i < L.numSL b) (he : e ∈ x.committed (b, i)) : e ∈ x.log b :=
  (h.committed_log b i hi).subset he

theorem mem_all (hi : i < L.numSL b) (he : e ∈ x.committed (b, i)) : e ∈ x.log b ++ x.queue b :=
  List.mem_append_left _ (h.mem_log hi he)

/-- What a committed entry needs is committed. -/
theorem needs_committed (hi : i < L.numSL b) (he : e ∈ x.committed (b, i))
    (hn : Needs L.numBG b e e') : e' ∈ x.committed (b, i) :=
  ((h.grounded b).of_isPrefix (h.committed_log b i hi)).mem he hn

/-- What a committed entry needs is committed by all SLs of the BG. -/
theorem needs_behind (hi : i < L.numSL b) (he : e ∈ x.committed (b, i))
    (hn : Needs L.numBG b e e') (hj : j < L.numSL b) : e' ∈ x.committed (b, j) :=
  (h.grounded b).mem_behind (h.committed_log b i hi) (h.committed_log b j hj)
    (h.close b i hi j hj) he hn

/-- What a queued or issued entry needs was issued. -/
theorem needs_log (he : e ∈ x.log b ++ x.queue b) (hn : Needs L.numBG b e e') :
    e' ∈ x.log b := by
  rcases List.mem_append.mp he with he | he
  · exact (h.grounded b).mem he hn
  · exact (h.queued b e he).2 e' hn

theorem client_behind (hi : i < L.numSL b) (he : k.trigger c ∈ x.committed (b, i))
    (hk : k ≠ .result) (hj : j < L.numSL b) : .client c ∈ x.committed (b, j) := by
  cases k with
  | result => exact absurd rfl hk
  | connectivity => exact h.needs_behind hi he (.localConnectivity c) hj
  | membership =>
    have hconn := h.needs_committed hi he (.localMembership c)
    exact h.needs_behind hi hconn (.localConnectivity c) hj

/-! ### Who has waited for whom -/

theorem token_localMembership (he : .localMembership c ∈ x.log b ++ x.queue b)
    (hA : A < L.numBG) (hne : A ≠ b) :
    x.token .connectivity b A c = .done ∧ x.token .result b A c = .done := by
  refine ⟨((h.followed .connectivity (by simp) b c).mp he).2 A hA hne, ?_⟩
  have hconn := h.needs_log he (.localMembership c)
  have hfetched := (h.grounded b).mem hconn (.results c A hA hne)
  exact (h.fetched b c A).mp (List.mem_append_left _ hfetched)

/--
A BG closes a cycle after all others have replicated its connectivity, so their requests for the
result and for the connectivity were answered before.
-/
theorem token_of_closed (he : .fullMembership c ∈ x.log A ++ x.queue A) (hb : b < L.numBG)
    (hne : b ≠ A) (hA : A < L.numBG) :
    x.token .connectivity b A c = .done ∧ x.token .result b A c = .done := by
  have hdone := ((h.followed .membership (by simp) A c).mp he).2 b hb hne
  obtain ⟨j, hj, hmem⟩ := h.served _ _ _ _ (Or.inr hdone)
  exact h.token_localMembership (h.mem_all hj hmem) hA (Ne.symm hne)

theorem not_closed (hk : k ≠ .membership) (hidle : x.token k b A c ≠ .idle)
    (hdone : x.token k b A c ≠ .done) : .fullMembership c ∉ x.log A ++ x.queue A := by
  intro he
  obtain ⟨hb, hA, hne, -⟩ := (h.asked k b A c).mp hidle
  obtain ⟨hconn, hresult⟩ := h.token_of_closed he hb (Ne.symm hne) hA
  cases k with
  | result => exact hdone hresult
  | connectivity => exact hdone hconn
  | membership => exact hk rfl

/-- A BG that is asked for the membership has committed the client Preprepare everywhere. -/
theorem client_of_asked (hidle : x.token .membership b A c ≠ .idle) (hj : j < L.numSL A) :
    .client c ∈ x.committed (A, j) := by
  obtain ⟨hb, hA, hne, i, hi, -, hmem⟩ := (h.asked _ b A c).mp hidle
  obtain ⟨hdone, -⟩ := h.token_localMembership (h.mem_all hi hmem) hA hne
  obtain ⟨j', hj', hmem'⟩ := h.served _ _ _ _ (Or.inr hdone)
  exact h.client_behind hj' hmem' (by simp) hj

/-- While an answer for the two later kinds is missing, the cycle is not closed at home. -/
theorem home_open (hk : k ≠ .result) (hidle : x.token k b A c ≠ .idle)
    (hdone : x.token k b A c ≠ .done) (hj : j < L.numSL b) :
    .client c ∈ x.committed (b, j) ∧ .fullMembership c ∉ x.log b ++ x.queue b := by
  obtain ⟨hb, hA, hne, i, hi, -, hmem⟩ := (h.asked _ b A c).mp hidle
  refine ⟨h.client_behind hi hmem hk hj, fun he => ?_⟩
  have hmember := h.needs_log he (.fullMembership c)
  cases k with
  | result => exact hk rfl
  | connectivity =>
    exact hdone (h.token_localMembership (List.mem_append_left _ hmember) hA hne).1
  | membership => exact hdone (((h.followed .membership (by simp) b c).mp he).2 A hA hne)

/-! ### The next entry -/

theorem next_notMem (hx : x.Next L y e) : e ∉ x.committed y := by
  obtain ⟨l, hl⟩ := hx.next
  have hnodup := h.nodup y.1
  rw [hl, List.append_assoc, List.nodup_append] at hnodup
  exact fun he => hnodup.2.2 e he e List.mem_cons_self rfl

theorem next_needs (hx : x.Next L y e) (hn : Needs L.numBG y.1 e e') : e' ∈ x.committed y := by
  obtain ⟨l, hl⟩ := hx.next
  exact (h.grounded y.1).mem_of_next hl hn

end Inv

theorem Next.mem_log (hx : x.Next L y e) : e ∈ x.log y.1 := by
  obtain ⟨l, hl⟩ := hx.next
  rw [hl]
  exact List.mem_append_right _ List.mem_cons_self

theorem Next.committed_log (hx : x.Next L y e) : x.committed y ++ [e] <+: x.log y.1 := by
  obtain ⟨l, hl⟩ := hx.next
  exact ⟨l, by rw [hl, List.append_assoc, List.singleton_append]⟩

/-- News is committed while its cycle is open, and there are other BGs. -/
theorem Inv.open_of_next (h : x.Inv L) (hx : x.Next L y e) (he : ∀ c, e ≠ .client c) : 2 ≤ L.numBG
    ∧ .client e.cycle ∈ x.committed y ∧ .fullMembership e.cycle ∉ x.committed y := by
  have hall := List.mem_append_left (x.queue y.1) hx.mem_log
  have hnew := h.next_notMem hx
  have hchain : ∀ c, .fullMembership c ∈ x.committed y →
      .localMembership c ∈ x.committed y ∧ .localConnectivity c ∈ x.committed y := fun c hfull => by
    have hmember := h.needs_committed hx.lt hfull (.fullMembership c)
    exact ⟨hmember, h.needs_committed hx.lt hmember (.localMembership c)⟩
  cases e with
  | client c => exact absurd rfl (he c)
  | fetched c A =>
    have hdone := (h.fetched y.1 c A).mp hall
    obtain ⟨hb, hA, hne, -⟩ := (h.asked .result y.1 A c).mp (by simp [hdone])
    refine ⟨by omega, h.next_needs hx (.fetched c A), fun hfull => hnew ?_⟩
    exact h.needs_committed hx.lt (hchain c hfull).2 (.results c A hA hne)
  | localConnectivity c =>
    exact ⟨((h.localConnectivity y.1 c).mp hall).1, h.next_needs hx (.localConnectivity c),
      fun hfull => hnew (hchain c hfull).2⟩
  | localMembership c =>
    have hconn := h.next_needs hx (.localMembership c)
    exact ⟨((h.followed .connectivity (by simp) y.1 c).mp hall).1,
      h.needs_committed hx.lt hconn (.localConnectivity c), fun hfull => hnew (hchain c hfull).1⟩
  | fullMembership c =>
    have hmember := h.next_needs hx (.fullMembership c)
    have hconn := h.needs_committed hx.lt hmember (.localMembership c)
    exact ⟨((h.followed .membership (by simp) y.1 c).mp hall).1,
      h.needs_committed hx.lt hconn (.localConnectivity c), hnew⟩

end Exchange

end RCanopus
