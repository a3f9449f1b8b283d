import RCanopus.Baseline.ConnManager
import RCanopus.Lib.LockStep

/-!
# One cycle of the baseline variant in the abstract

Every SL fetches the results of the other BGs by itself. Then its BG agrees that it is connected,
and after that the leaders of the BGs agree on one last entry in lock step, which ends the cycle.

Here the cycle is the stage of every SL, the token of every request, and how far the leaders are
with the last entry. `Progress.Ok` is what holds of them at any time.
-/

namespace RCanopus.Baseline

/-! ## States -/

/-- How far an SL is with a cycle. -/
inductive Stage where
  /-- The result of the own BG is not committed here. -/
  | idle
  | fetching
  /-- All results are here, but the local connectivity is not committed. -/
  | connecting
  /-- A leader is in the last round. -/
  | leading
  | done
  deriving DecidableEq, Repr

/-- The local connectivity is committed, which a single BG does without. -/
def Stage.Connected (numBG : Nat) (s : Stage) : Prop := s = .leading ∨ s = .done ∧ numBG ≠ 1

instance (numBG : Nat) (s : Stage) : Decidable (s.Connected numBG) :=
  inferInstanceAs (Decidable (_ ∨ _))

/-- Where the request of an SL to another BG is. -/
inductive FetchToken where
  | idle
  | asked (sl : Nat)
  | pending (sl : Nat)
  | answered
  | done
  deriving DecidableEq, Repr

/-- How far a cycle is. In the last round the members are the leaders of the BGs. -/
structure Progress where
  stage : Peer → Stage
  token : Peer → Nat → FetchToken
  last : LockStep.State
  collector : Nat

namespace Progress

def init : Progress where
  stage := fun _ => .idle
  token := fun _ _ => .idle
  last := .init
  collector := 0

/-- All other BGs have answered. -/
def Fetched (numBG : Nat) (g : Progress) (y : Peer) : Prop :=
  ∀ A < numBG, A ≠ y.1 → g.token y A = .done

instance (numBG : Nat) (g : Progress) (y : Peer) : Decidable (g.Fetched numBG y) :=
  inferInstanceAs (Decidable (∀ A < numBG, A ≠ y.1 → g.token y A = .done))

/-! ## Moves -/

section Moves

variable (numBG : Nat) (g : Progress) (y : Peer) (A b : Nat)

def setToken (t : FetchToken) : Progress :=
  { g with token := Function.update g.token y (Function.update (g.token y) A t) }

/-- An SL has the result of its BG: it asks the other BGs and answers what waits for it. -/
def start (target : Nat → Nat) : Progress :=
  { g with
    stage := Function.update g.stage y (if numBG = 1 then .done else .fetching)
    token := fun z A =>
      if z = y then if A < numBG ∧ A ≠ y.1 then .asked (target A) else .idle
      else if A = y.1 ∧ g.token z A = .pending y.2 then .answered
      else g.token z A }

/-- An SL gets an answer, which may be the last one. -/
def take : Progress :=
  let g := g.setToken y A .done
  { g with
    stage := if g.Fetched numBG y then Function.update g.stage y .connecting else g.stage }

/-- An SL has committed the local connectivity. The first leader proposes the last entry. -/
def connect (k : Nat) : Progress :=
  { g with
    stage := Function.update g.stage y (if y.2 = 0 then .leading else .done)
    last := if y = (0, 0) then g.last.propose else g.last
    collector := if y = (0, 0) then k else g.collector }

def accept : Progress := { g with last := g.last.accept b }

def count : Progress := { g with last := g.last.count numBG b }

/-- A leader ends the cycle. -/
def finish : Progress :=
  { g with
    stage := Function.update g.stage (b, 0) .done
    last := g.last.commit b }

end Moves

/-- What a step of SL `x` can do to a cycle. -/
inductive Next (numBG : Nat) (x : Peer) (g : Progress) : Progress → Prop where
  | stay : Next numBG x g g
  | setToken (y : Peer) (A : Nat) (t : FetchToken) : Next numBG x g (g.setToken y A t)
  | start (target : Nat → Nat) (hs : g.stage x = .idle) : Next numBG x g (g.start numBG x target)
  | take (A : Nat) (ht : g.token x A = .answered) : Next numBG x g (g.take numBG x A)
  | connect (k : Nat) (hs : g.stage x = .connecting) : Next numBG x g (g.connect x k)
  | accept (hx : x.2 = 0) (hs : g.stage x = .leading) : Next numBG x g (g.accept x.1)
  | count (b : Nat) (hx : x = (g.collector, 0)) : Next numBG x g (g.count numBG b)
  | finish (hx : x.2 = 0) (hs : g.stage x = .leading) (hc : g.last.com x.1 < g.last.closed) :
    Next numBG x g (g.finish x.1)

/-! ## The invariant -/

/-- What holds of a cycle at any time. -/
structure Ok (numBG : Nat) (g : Progress) : Prop where
  beyond : ∀ y, numBG ≤ y.1 → g.stage y = .idle
  away : ∀ y A, A = y.1 ∨ numBG ≤ A → g.token y A = .idle
  idle : ∀ y A, A ≠ y.1 → A < numBG → (g.token y A = .idle ↔ g.stage y = .idle)
  pending : ∀ y A j, g.token y A = .pending j → g.stage (A, j) = .idle
  fetching : ∀ y, g.stage y = .fetching → ¬ g.Fetched numBG y
  fetched : ∀ y, g.stage y ≠ .idle → g.stage y ≠ .fetching → g.Fetched numBG y
  several : ∀ y, g.stage y ≠ .idle → g.stage y ≠ .done → numBG ≠ 1
  leading : ∀ y, g.stage y = .leading → y.2 = 0
  last : LockStep.Inv numBG g.last
  len : g.last.len = if (g.stage (0, 0)).Connected numBG then 1 else 0
  acc : ∀ b < numBG, 0 < g.last.acc b → (g.stage (b, 0)).Connected numBG
  com : ∀ b < numBG, 0 < g.last.com b ↔ g.stage (b, 0) = .done ∧ numBG ≠ 1
  collector : 0 < g.last.len → g.collector < numBG
  counted : g.last.votes 0 ≠ [] → 0 < g.last.acc g.collector

section Facts

variable {numBG : Nat} {g : Progress} {y z : Peer} {A b : Nat} (h : g.Ok numBG)

theorem ok_init (hn : 0 < numBG) : init.Ok numBG where
  beyond := fun _ _ => rfl
  away := fun _ _ _ => rfl
  idle := fun _ _ _ _ => iff_of_true rfl rfl
  pending := fun _ _ _ ht => absurd ht (by simp [init])
  fetching := fun _ hs => absurd hs (by simp [init])
  fetched := fun _ hs _ => absurd rfl hs
  several := fun _ hs _ => absurd rfl hs
  leading := fun _ hs => absurd hs (by simp [init])
  last := LockStep.inv_init hn
  len := rfl
  acc := fun _ _ ha => absurd ha (Nat.lt_irrefl 0)
  com := fun _ _ => iff_of_false (Nat.lt_irrefl 0) fun h => absurd h.1 (by simp [init])
  collector := fun hl => absurd hl (Nat.lt_irrefl 0)
  counted := fun hv => absurd rfl hv

include h

theorem Ok.len_le : g.last.len ≤ 1 := by
  rw [h.len]
  split <;> omega

theorem Ok.acc_le (hb : b < numBG) : g.last.acc b ≤ 1 := (h.last.acc_le_len b hb).trans h.len_le

theorem Ok.closed_le (hb : b < numBG) : g.last.closed ≤ 1 :=
  (h.last.closed_le_acc b hb).trans (h.acc_le hb)

/-- A request is on its way only from an SL that is waiting for results. -/
theorem Ok.stage_of_token (ht : g.token y A ≠ .idle) (hd : g.token y A ≠ .done) :
    g.stage y = .fetching := by
  have haway : ¬(A = y.1 ∨ numBG ≤ A) := fun ha => ht (h.away y A ha)
  have hidle : g.stage y ≠ .idle := fun hs =>
    ht ((h.idle y A (by omega) (by omega)).mpr hs)
  by_contra hfetching
  exact hd (h.fetched y hidle hfetching A (by omega) (by omega))

theorem Ok.lt_of_token (ht : g.token y A ≠ .idle) : A < numBG ∧ A ≠ y.1 := by
  by_contra hA
  exact ht (h.away y A (by omega))

end Facts

/-! ## Moves keep the invariant -/

section Steps

variable {numBG : Nat} {g : Progress} {y z : Peer} {A b : Nat}

theorem setToken_token (t : FetchToken) (z : Peer) (B : Nat) :
    (g.setToken y A t).token z B = if z = y ∧ B = A then t else g.token z B := by
  unfold setToken
  by_cases hz : z = y
  · subst hz
    by_cases hB : B = A
    · subst hB
      simp
    · simp [hB]
  · simp [hz]

theorem start_token_self (target : Nat → Nat) (A : Nat) :
    (g.start numBG y target).token y A
      = if A < numBG ∧ A ≠ y.1 then .asked (target A) else .idle := if_pos rfl

theorem start_token_of_ne (hz : z ≠ y) (target : Nat → Nat) (A : Nat) :
    (g.start numBG y target).token z A
      = if A = y.1 ∧ g.token z A = .pending y.2 then .answered else g.token z A := if_neg hz

theorem start_stage (target : Nat → Nat) (z : Peer) : (g.start numBG y target).stage z
    = if z = y then if numBG = 1 then .done else .fetching else g.stage z :=
  Function.update_apply ..

theorem take_token (z : Peer) (B : Nat) :
    (g.take numBG y A).token z B = if z = y ∧ B = A then .done else g.token z B :=
  setToken_token .done z B

theorem take_stage (z : Peer) : (g.take numBG y A).stage z
    = if z = y ∧ (g.take numBG y A).Fetched numBG y then .connecting else g.stage z := by
  show (if (g.setToken y A .done).Fetched numBG y
    then Function.update g.stage y .connecting else g.stage) z = _
  have hiff : (g.take numBG y A).Fetched numBG y ↔ (g.setToken y A .done).Fetched numBG y :=
    Iff.rfl
  by_cases hf : (g.setToken y A .done).Fetched numBG y
  · rw [if_pos hf]
    by_cases hz : z = y
    · rw [if_pos ⟨hz, hiff.mpr hf⟩, hz, Function.update_self]
    · rw [if_neg fun hc => hz hc.1, Function.update_of_ne hz]
  · rw [if_neg hf, if_neg fun hc => hf (hiff.mp hc.2)]

theorem connect_stage {k : Nat} (z : Peer) : (g.connect y k).stage z
    = if z = y then if y.2 = 0 then .leading else .done else g.stage z :=
  Function.update_apply ..

theorem connect_last {k : Nat} :
    (g.connect y k).last = if y = (0, 0) then g.last.propose else g.last := rfl

@[simp] theorem connect_acc {k : Nat} : (g.connect y k).last.acc = g.last.acc := by
  rw [connect_last]
  split <;> rfl

@[simp] theorem connect_com {k : Nat} : (g.connect y k).last.com = g.last.com := by
  rw [connect_last]
  split <;> rfl

@[simp] theorem connect_closed {k : Nat} : (g.connect y k).last.closed = g.last.closed := by
  rw [connect_last]
  split <;> rfl

@[simp] theorem connect_votes {k : Nat} : (g.connect y k).last.votes = g.last.votes := by
  rw [connect_last]
  split <;> rfl

theorem connect_len {k : Nat} : (g.connect y k).last.len
    = if y = (0, 0) then g.last.len + 1 else g.last.len := by
  rw [connect_last]
  split <;> rfl

theorem connect_collector {k : Nat} :
    (g.connect y k).collector = if y = (0, 0) then k else g.collector := rfl

@[simp] theorem accept_stage : (g.accept b).stage = g.stage := rfl

@[simp] theorem accept_len : (g.accept b).last.len = g.last.len := rfl

@[simp] theorem accept_closed : (g.accept b).last.closed = g.last.closed := rfl

@[simp] theorem accept_collector : (g.accept b).collector = g.collector := rfl

@[simp] theorem count_stage : (g.count numBG b).stage = g.stage := rfl

@[simp] theorem count_len : (g.count numBG b).last.len = g.last.len := rfl

@[simp] theorem count_acc : (g.count numBG b).last.acc = g.last.acc := rfl

@[simp] theorem count_collector : (g.count numBG b).collector = g.collector := rfl

@[simp] theorem finish_len : (g.finish b).last.len = g.last.len := rfl

@[simp] theorem finish_acc : (g.finish b).last.acc = g.last.acc := rfl

@[simp] theorem finish_closed : (g.finish b).last.closed = g.last.closed := rfl

@[simp] theorem finish_collector : (g.finish b).collector = g.collector := rfl

theorem finish_stage (z : Peer) :
    (g.finish b).stage z = if z = (b, 0) then .done else g.stage z := Function.update_apply ..

/-- A request moves on, but its answer is not there yet. -/
theorem Ok.setToken (h : g.Ok numBG) {t : FetchToken} (hold : g.token y A ≠ .idle)
    (hopen : g.token y A ≠ .done) (ht : t ≠ .idle) (hd : t ≠ .done)
    (hpending : ∀ j, t = .pending j → g.stage (A, j) = .idle) : (g.setToken y A t).Ok numBG := by
  have hstage := h.stage_of_token hold hopen
  have hlt := h.lt_of_token hold
  have hne : ∀ z B, B = z.1 ∨ numBG ≤ B → ¬(z = y ∧ B = A) := by
    rintro z B hB ⟨rfl, rfl⟩
    omega
  have hfetched : ∀ z, (g.setToken y A t).Fetched numBG z ↔ g.Fetched numBG z := fun z => by
    by_cases hz : z = y
    · subst hz
      refine iff_of_false (fun hf => hd ?_) (h.fetching z hstage)
      have := hf A hlt.1 hlt.2
      rwa [setToken_token, if_pos ⟨rfl, rfl⟩] at this
    · unfold Fetched
      simp only [setToken_token, hz, false_and, if_false]
  refine { h with
    away := fun z B hB => ?_
    idle := fun z B hB hlt => ?_
    pending := fun z B j hj => ?_
    fetching := fun z hz => ?_
    fetched := fun z hi hf => ?_ }
  · rw [setToken_token, if_neg (hne z B hB)]
    exact h.away z B hB
  · rw [setToken_token]
    split
    · next hz =>
      obtain ⟨rfl, rfl⟩ := hz
      have hfetching : (g.setToken z B t).stage z = .fetching := hstage
      rw [hfetching]
      exact iff_of_false ht (by simp)
    · exact h.idle z B hB hlt
  · rw [setToken_token] at hj
    split at hj
    · next hz =>
      obtain ⟨rfl, rfl⟩ := hz
      exact hpending j hj
    · exact h.pending z B j hj
  · rw [hfetched]
    exact h.fetching z hz
  · rw [hfetched]
    exact h.fetched z hi hf

/-- An SL gets the result of its own BG. -/
theorem Ok.start (h : g.Ok numBG) (hidle : g.stage y = .idle) (hy : y.1 < numBG)
    (target : Nat → Nat) : (g.start numBG y target).Ok numBG := by
  have htoken : ∀ A, g.token y A = .idle := fun A => by
    by_cases hA : A ≠ y.1 ∧ A < numBG
    · exact (h.idle y A hA.1 hA.2).mpr hidle
    · exact h.away y A (by omega)
  have hself : ∀ A, (g.start numBG y target).token y A
      = if A < numBG ∧ A ≠ y.1 then .asked (target A) else .idle := start_token_self target
  have hother : ∀ z ≠ y, ∀ A, (g.start numBG y target).token z A
      = if A = y.1 ∧ g.token z A = .pending y.2 then .answered else g.token z A :=
    fun z hz => start_token_of_ne hz target
  have hstage : ∀ z, (g.start numBG y target).stage z = _ := start_stage target
  have hfetched : ∀ z ≠ y, (g.start numBG y target).Fetched numBG z ↔ g.Fetched numBG z :=
    fun z hz => forall₃_congr fun A _ _ => by
      rw [hother z hz]
      split
      · next hp => simp [hp.2]
      · exact Iff.rfl
  have hleader : (b : Nat) → g.stage (b, 0) = .idle → (b < numBG → g.last.acc b = 0)
      ∧ (b < numBG → g.last.com b = 0) := fun b hb => by
    refine ⟨fun hlt => ?_, fun hlt => ?_⟩
    · by_contra hacc
      have := h.acc b hlt (Nat.pos_of_ne_zero hacc)
      rw [hb] at this
      simp [Stage.Connected] at this
    · by_contra hcom
      have := (h.com b hlt).mp (Nat.pos_of_ne_zero hcom)
      rw [hb] at this
      simp at this
  have hconnected : ∀ z, ((g.start numBG y target).stage z).Connected numBG
      ↔ (g.stage z).Connected numBG := fun z => by
    rw [hstage]
    split
    · next hz =>
      subst hz
      rw [hidle]
      by_cases hN : numBG = 1 <;> simp [Stage.Connected, hN]
    · exact Iff.rfl
  refine {
    beyond := fun z hz => by
      rw [hstage, if_neg fun hzy => by rw [hzy] at hz; omega]
      exact h.beyond z hz
    away := fun z A hA => ?_
    idle := fun z A hA hlt => ?_
    pending := fun z A j hj => ?_
    fetching := fun z hz => ?_
    fetched := fun z hi hf => ?_
    several := fun z hi hd => ?_
    leading := fun z hz => ?_
    last := h.last
    len := ?_
    acc := fun b hb ha => (hconnected _).mpr (h.acc b hb ha)
    com := fun b hb => ?_
    collector := h.collector
    counted := h.counted }
  · by_cases hz : z = y
    · subst hz
      rw [hself, if_neg (by omega)]
    · rw [hother z hz, h.away z A hA]
      simp
  · by_cases hz : z = y
    · subst hz
      rw [hself, if_pos ⟨hlt, hA⟩, hstage, if_pos rfl]
      refine iff_of_false (by simp) ?_
      split <;> simp
    · rw [hother z hz, hstage, if_neg hz]
      split
      · next hp =>
        rw [← h.idle z A hA hlt, hp.2]
        simp
      · exact h.idle z A hA hlt
  · by_cases hz : z = y
    · subst hz
      rw [hself] at hj
      split at hj <;> simp at hj
    · rw [hother z hz] at hj
      split at hj
      · simp at hj
      · next hp =>
        have hne : ((A, j) : Peer) ≠ y := by
          rintro rfl
          exact hp ⟨rfl, hj⟩
        rw [hstage, if_neg hne]
        exact h.pending z A j hj
  · by_cases hzy : z = y
    · subst hzy
      rw [hstage, if_pos rfl] at hz
      split at hz
      · simp at hz
      · next hN =>
        -- there is another BG, which is only asked
        intro hall
        obtain ⟨A, hA, hne⟩ : ∃ A < numBG, A ≠ z.1 := by
          by_cases h0 : z.1 = 0
          · exact ⟨1, by omega, by omega⟩
          · exact ⟨0, by omega, by omega⟩
        have := hall A hA hne
        rw [hself, if_pos ⟨hA, hne⟩] at this
        simp at this
    · rw [hstage, if_neg hzy] at hz
      rw [hfetched z hzy]
      exact h.fetching z hz
  · by_cases hzy : z = y
    · subst hzy
      rw [hstage, if_pos rfl] at hf
      split at hf
      · intro A hA hne
        omega
      · exact absurd rfl hf
    · rw [hstage, if_neg hzy] at hi hf
      rw [hfetched z hzy]
      exact h.fetched z hi hf
  · by_cases hzy : z = y
    · subst hzy
      rw [hstage, if_pos rfl] at hd
      split at hd
      · exact absurd rfl hd
      · assumption
    · rw [hstage, if_neg hzy] at hi hd
      exact h.several z hi hd
  · by_cases hzy : z = y
    · rw [hstage, if_pos hzy] at hz
      split at hz <;> simp at hz
    · rw [hstage, if_neg hzy] at hz
      exact h.leading z hz
  · rw [if_congr (hconnected _) rfl rfl]
    exact h.len
  · have hcom := h.com b hb
    rw [hstage]
    split
    · next hz =>
      rw [hz, hidle] at hcom
      refine hcom.trans (iff_of_false (by simp) ?_)
      rintro ⟨hd, hN⟩
      rw [if_neg hN] at hd
      simp at hd
    · exact hcom

/-- An SL gets an answer. -/
theorem Ok.take (h : g.Ok numBG) (ht : g.token y A = .answered) :
    (g.take numBG y A).Ok numBG := by
  have hold : g.token y A ≠ .idle := by simp [ht]
  have hstage := h.stage_of_token hold (by simp [ht])
  have hlt := h.lt_of_token hold
  have hidle : g.stage y ≠ .idle := by simp [hstage]
  have hy : ∀ b, g.stage (b, 0) = .fetching → b < numBG → g.last.com b = 0 := fun b hb hlt => by
    by_contra hcom
    have := (h.com b hlt).mp (Nat.pos_of_ne_zero hcom)
    rw [hb] at this
    simp at this
  have htoken : ∀ z B, (g.take numBG y A).token z B
      = if z = y ∧ B = A then .done else g.token z B := take_token
  have hfetched : ∀ z ≠ y, (g.take numBG y A).Fetched numBG z ↔ g.Fetched numBG z :=
    fun z hz => forall₃_congr fun B _ _ => by
      rw [htoken, if_neg fun hc => hz hc.1]
  have hstages : ∀ z, (g.take numBG y A).stage z = _ := take_stage
  have hconnected : ∀ z, ((g.take numBG y A).stage z).Connected numBG
      ↔ (g.stage z).Connected numBG := fun z => by
    rw [hstages]
    split
    · next hz =>
      rw [hz.1, hstage]
      simp [Stage.Connected]
    · exact Iff.rfl
  refine {
    beyond := fun z hz => by
      have hzy : z ≠ y := fun hzy => hidle (hzy ▸ h.beyond z hz)
      rw [hstages, if_neg fun hc => hzy hc.1]
      exact h.beyond z hz
    away := fun z B hB => ?_
    idle := fun z B hB hB' => ?_
    pending := fun z B j hj => ?_
    fetching := fun z hz => ?_
    fetched := fun z hi hf => ?_
    several := fun z hi hd => ?_
    leading := fun z hz => ?_
    last := h.last
    len := ?_
    acc := fun b hb ha => (hconnected _).mpr (h.acc b hb ha)
    com := fun b hb => ?_
    collector := h.collector
    counted := h.counted }
  · rw [htoken, if_neg fun hc => by rw [hc.1, hc.2] at hB; omega]
    exact h.away z B hB
  · rw [htoken, hstages]
    by_cases hz : z = y
    · subst hz
      have hstage' : (if z = z ∧ (g.take numBG z A).Fetched numBG z then Stage.connecting
          else g.stage z) ≠ .idle := by
        split
        · simp
        · exact hidle
      refine iff_of_false ?_ hstage'
      split
      · simp
      · exact fun hn => hidle ((h.idle z B hB hB').mp hn)
    · rw [if_neg fun hc => hz hc.1, if_neg fun hc => hz hc.1]
      exact h.idle z B hB hB'
  · rw [htoken] at hj
    split at hj
    · simp at hj
    · have hp := h.pending z B j hj
      have hne : ((B, j) : Peer) ≠ y := fun hc => hidle (hc ▸ hp)
      rw [hstages, if_neg fun hc => hne hc.1]
      exact hp
  · rw [hstages] at hz
    split at hz
    · simp at hz
    · next hn =>
      by_cases hzy : z = y
      · subst hzy
        exact fun hf => hn ⟨rfl, hf⟩
      · rw [hfetched z hzy]
        exact h.fetching z hz
  · rw [hstages] at hi hf
    split at hf
    · next hz =>
      rw [hz.1]
      exact hz.2
    · next hn =>
      rw [if_neg hn] at hi
      have hzy : z ≠ y := fun hzy => hf (hzy ▸ hstage)
      rw [hfetched z hzy]
      exact h.fetched z hi hf
  · by_cases hzy : z = y
    · subst hzy
      exact h.several z hidle (by simp [hstage])
    · rw [hstages, if_neg fun hc => hzy hc.1] at hi hd
      exact h.several z hi hd
  · rw [hstages] at hz
    split at hz
    · simp at hz
    · exact h.leading z hz
  · rw [if_congr (hconnected _) rfl rfl]
    exact h.len
  · have hcom := h.com b hb
    rw [hstages]
    split
    · next hz =>
      rw [hz.1, hstage] at hcom
      exact hcom.trans (by simp)
    · exact hcom

/-- An SL commits the local connectivity. -/
theorem Ok.connect (h : g.Ok numBG) (hy : y.1 < numBG) (hstage : g.stage y = .connecting) {k : Nat}
    (hk : y = (0, 0) → k < numBG) : (g.connect y k).Ok numBG := by
  have hN := h.several y (by simp [hstage]) (by simp [hstage])
  have hstages := g.connect_stage (y := y) (k := k)
  have hbusy : (if y.2 = 0 then Stage.leading else .done) ≠ .idle := by
    split <;> simp
  have hconnected : ∀ z, ((g.connect y k).stage z).Connected numBG
      ↔ z = y ∨ (g.stage z).Connected numBG := fun z => by
    rw [hstages]
    split
    · next hz =>
      refine iff_of_true ?_ (Or.inl hz)
      split
      · exact Or.inl rfl
      · exact Or.inr ⟨rfl, hN⟩
    · next hz => simp [hz]
  have hnot : ¬ (g.stage y).Connected numBG := by simp [hstage, Stage.Connected]
  -- the first leader has not proposed before
  have hidle : y = (0, 0) → g.last.len = 0 ∧ g.last.com 0 = 0 := by
    rintro rfl
    have hlen := h.len
    rw [if_neg hnot] at hlen
    refine ⟨hlen, ?_⟩
    by_contra hcom
    have := (h.com 0 hy).mp (Nat.pos_of_ne_zero hcom)
    rw [hstage] at this
    simp at this
  refine {
    beyond := fun z hz => by
      rw [hstages, if_neg fun hzy => by rw [hzy] at hz; omega]
      exact h.beyond z hz
    away := h.away
    idle := fun z B hB hlt => ?_
    pending := fun z B j hj => ?_
    fetching := fun z hz => ?_
    fetched := fun z hi hf => ?_
    several := fun z hi hd => ?_
    leading := fun z hz => ?_
    last := ?_
    len := ?_
    acc := fun b hb ha => ?_
    com := fun b hb => ?_
    collector := fun hl => ?_
    counted := fun hv => ?_ }
  · rw [hstages]
    split
    · next hz =>
      subst hz
      refine iff_of_false (fun ht => ?_) hbusy
      have := (h.idle z B hB hlt).mp ht
      rw [hstage] at this
      simp at this
    · exact h.idle z B hB hlt
  · have hp := h.pending z B j hj
    rw [hstages, if_neg fun hc => by rw [hc, hstage] at hp; simp at hp]
    exact hp
  · rw [hstages] at hz
    split at hz
    · split at hz <;> simp at hz
    · exact h.fetching z hz
  · rw [hstages] at hi hf
    split at hf
    · next hz =>
      subst hz
      exact h.fetched z (by simp [hstage]) (by simp [hstage])
    · next hz =>
      rw [if_neg hz] at hi
      exact h.fetched z hi hf
  · by_cases hz : z = y
    · exact hN
    · rw [hstages, if_neg hz] at hi hd
      exact h.several z hi hd
  · rw [hstages] at hz
    split at hz
    · next hzy =>
      split at hz
      · next h0 => rw [hzy, h0]
      · simp at hz
    · exact h.leading z hz
  · rw [connect_last]
    split
    · next h0 =>
      have hy0 : 0 < numBG := by omega
      exact h.last.propose hy0 (by rw [(hidle h0).1, (hidle h0).2])
    · exact h.last
  · rw [if_congr (hconnected (0, 0)) rfl rfl, connect_len]
    by_cases h0 : y = (0, 0)
    · rw [if_pos h0, if_pos (Or.inl h0.symm), (hidle h0).1]
    · rw [if_neg h0, h.len]
      exact if_congr (or_iff_right fun heq => h0 heq.symm).symm rfl rfl
  · rw [connect_acc] at ha
    exact (hconnected _).mpr (Or.inr (h.acc b hb ha))
  · rw [connect_com, hstages]
    have hc := h.com b hb
    split
    · next hz =>
      rw [hz, hstage] at hc
      refine hc.trans (iff_of_false (by simp) ?_)
      rw [if_pos (by rw [← hz])]
      simp
    · exact hc
  · rw [connect_collector]
    rw [connect_len] at hl
    split
    · next h0 => exact hk h0
    · next h0 =>
      rw [if_neg h0] at hl
      exact h.collector hl
  · rw [connect_votes] at hv
    rw [connect_acc, connect_collector]
    split
    · next h0 =>
      -- a vote that was counted was a vote of somebody
      obtain ⟨i, hi⟩ := List.exists_mem_of_ne_nil _ hv
      obtain ⟨hlt, hacc⟩ := h.last.votes_acc 0 i hi
      have := h.last.acc_le_len i hlt
      have := (hidle h0).1
      omega
    · exact h.counted hv

/-- A leader votes for the last entry. -/
theorem Ok.accept (h : g.Ok numBG) (hb : b < numBG) (hstage : g.stage (b, 0) = .leading)
    (hlt : g.last.acc b < g.last.len) : (g.accept b).Ok numBG := by
  have hacc : g.last.acc b = 0 := by
    have := h.len_le
    omega
  have hcom := h.last.com_le_acc b hb
  refine { h with
    last := h.last.accept (by omega) hlt
    acc := fun b' hb' ha => ?_
    counted := fun hv => ?_ }
  · have ha : 0 < (g.last.accept b).acc b' := ha
    rw [LockStep.State.accept_acc] at ha
    split at ha
    · next hbb =>
      subst hbb
      exact Or.inl hstage
    · exact h.acc b' hb' ha
  · show 0 < (g.last.accept b).acc g.collector
    have := h.counted hv
    rw [LockStep.State.accept_acc]
    split <;> omega

/-- The collector counts the vote of a leader. -/
theorem Ok.count (h : g.Ok numBG) (hb : b < numBG) (hacc : g.last.closed < g.last.acc b)
    (hnew : b ∉ g.last.votes g.last.closed) (hcollector : 0 < g.last.acc g.collector) :
    (g.count numBG b).Ok numBG :=
  { h with
    last := h.last.count hb hacc hnew
    counted := fun _ => hcollector }

/-- A leader commits the last entry. -/
theorem Ok.finish (h : g.Ok numBG) (hb : b < numBG) (hstage : g.stage (b, 0) = .leading)
    (hlt : g.last.com b < g.last.closed) : (g.finish b).Ok numBG := by
  have hN := h.several (b, 0) (by simp [hstage]) (by simp [hstage])
  have hstages := g.finish_stage (b := b)
  have hconnected : ∀ z, ((g.finish b).stage z).Connected numBG
      ↔ (g.stage z).Connected numBG := fun z => by
    rw [hstages]
    split
    · next hz =>
      subst hz
      exact iff_of_true (Or.inr ⟨rfl, hN⟩) (Or.inl hstage)
    · exact Iff.rfl
  refine {
    beyond := fun z hz => by
      rw [hstages, if_neg fun hzy => by rw [hzy] at hz; omega]
      exact h.beyond z hz
    away := h.away
    idle := fun z B hB hlt => ?_
    pending := fun z B j hj => ?_
    fetching := fun z hz => ?_
    fetched := fun z hi hf => ?_
    several := fun z hi hd => ?_
    leading := fun z hz => ?_
    last := h.last.commit hb hlt
    len := ?_
    acc := fun b' hb' ha => (hconnected _).mpr (h.acc b' hb' ha)
    com := fun b' hb' => ?_
    collector := h.collector
    counted := h.counted }
  · rw [hstages]
    split
    · next hz =>
      subst hz
      refine iff_of_false (fun ht => ?_) (by simp)
      have := (h.idle _ B hB hlt).mp ht
      rw [hstage] at this
      simp at this
    · exact h.idle z B hB hlt
  · have hp := h.pending z B j hj
    have hne : ((B, j) : Peer) ≠ (b, 0) := fun hc => by
      rw [hc, hstage] at hp
      simp at hp
    rw [hstages, if_neg hne]
    exact hp
  · rw [hstages] at hz
    split at hz
    · simp at hz
    · exact h.fetching z hz
  · rw [hstages] at hi hf
    split at hf
    · next hz =>
      subst hz
      exact h.fetched (b, 0) (by simp [hstage]) (by simp [hstage])
    · next hz =>
      rw [if_neg hz] at hi
      exact h.fetched z hi hf
  · rw [hstages] at hi hd
    split at hd
    · exact absurd rfl hd
    · next hz =>
      rw [if_neg hz] at hi
      exact h.several z hi hd
  · rw [hstages] at hz
    split at hz
    · simp at hz
    · exact h.leading z hz
  · rw [if_congr (hconnected _) rfl rfl]
    exact h.len
  · have hc := h.com b' hb'
    rw [hstages]
    show 0 < (g.last.commit b).com b' ↔ _
    rw [LockStep.State.commit_com]
    by_cases hbb : b' = b
    · subst hbb
      rw [if_pos rfl, if_pos rfl]
      exact iff_of_true (by omega) ⟨rfl, hN⟩
    · have hne : ((b', 0) : Peer) ≠ (b, 0) := by simpa using hbb
      rw [if_neg hbb, if_neg hne]
      exact hc

end Steps

end Progress

end RCanopus.Baseline
