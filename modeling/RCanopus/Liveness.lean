import RCanopus.JugglePass
import RCanopus.LogSize
import RCanopus.NoDeadlock
import RCanopus.Termination

/-!
# Every batch leads to a cycle that all SLs close

Without new batches the servers come to rest, and what they have not done by then they never do. At
rest every leader has turned all batches that it can into cycles, and every SL has closed them all.
-/

namespace RCanopus

open Cluster Descent Exchange

variable {d : Deployment} {σ σ' : Cluster} {x y : Peer} {b i : Nat} {c : UInt16} {e : QueueElement}
  {ω : Choice} {before : Node} {labels rest : List Label}

/-! ## Passes -/

/-- A pass ends at the latest with the juggle queue. -/
def PassOk (node : Node) : Prop := node.passLeft ≤ node.sl.juggleQueue.length

/-- A pass that goes on has a front of the queue to go on with. -/
theorem PassOk.exists_front {node : Node} (h : PassOk node) (hne : node.passLeft ≠ 0) :
    ∃ e rest, node.sl.juggleQueue = e :: rest := by
  unfold PassOk at h
  exact List.exists_cons_of_length_pos (Nat.lt_of_lt_of_le (Nat.pos_of_ne_zero hne) h)

theorem PassOk.congr {node node' : Node} (h : PassOk node)
    (hjuggled : node'.sl.juggleQueue = node.sl.juggleQueue)
    (hleft : node'.passLeft = node.passLeft) : PassOk node' := by
  unfold PassOk
  rw [hjuggled, hleft]
  exact h

/-- A dispatch leaves the passes of the others alone. -/
theorem passOk_dispatch {o : Outcome} (hd : DispatchTo d σ σ' x e before o)
    (h : ∀ y, (σ y).crashed = false → PassOk (σ y))
    (hself : ∀ s, o = .ok s → before.passLeft ≤ s.juggleQueue.length)
    (hy : (σ' y).crashed = false) : PassOk (σ' y) := by
  rw [hd.result] at hy ⊢
  by_cases hyx : y = x
  · subst hyx
    cases o with
    | thrown ex s' =>
      rw [install_thrown_crashed] at hy
      exact absurd hy (by simp)
    | ok s' =>
      unfold PassOk
      rw [install_passLeft_self, install_sl_self]
      exact hself s' rfl
  · rw [install_crashed_of_ne hyx] at hy
    exact (h y hy).congr (by rw [install_sl_of_ne hyx]) (install_passLeft_of_ne hyx)

theorem passOk_tick (ht : Tick d σ σ') (hleft : (σ' y).passLeft = (σ y).passLeft)
    (h : ∀ y, (σ y).crashed = false → PassOk (σ y)) (hy : (σ' y).crashed = false) :
    PassOk (σ' y) := by
  obtain ⟨k, hsl⟩ := ht.sl_eq y
  rw [ht.crashed_eq] at hy
  exact (h y hy).congr (by rw [hsl]) hleft

/-- The pass takes the front of the queue, and what it puts back does not count. -/
theorem passLeft_le {s : ConnManager} (h : PassOk (σ x))
    (hj : (σ x).sl.juggleQueue = e :: before.sl.juggleQueue)
    (hleft : (σ x).passLeft = before.passLeft + 1) {l : List QueueElement}
    (hjuggled : s.juggleQueue = before.sl.juggleQueue ++ l) :
    before.passLeft ≤ s.juggleQueue.length := by
  unfold PassOk at h
  rw [hj, hleft, List.length_cons] at h
  rw [hjuggled, List.length_append]
  omega

theorem passOk_step (hs : Step d σ σ') (h : ∀ y, (σ y).crashed = false → PassOk (σ y)) :
    ∀ y, (σ' y).crashed = false → PassOk (σ' y) := by
  intro y hy
  obtain ⟨l, hl⟩ := hs
  cases l with
  | receive x i ω =>
    obtain ⟨e, before, hd, -, -, hleft, -⟩ := receive_dispatch hl
    refine passOk_dispatch hd.to h (fun s ho => ?_) hy
    rw [hleft, ho]
    exact Nat.le_refl _
  | retry x ω =>
    obtain ⟨e, before, hd, hj, hleft, -⟩ := retry_dispatch hl
    refine passOk_dispatch hd.to h (fun s ho => ?_) hy
    obtain ⟨fate, htreated, -⟩ := exists_treated ho
    exact passLeft_le (h x hd.alive) hj hleft htreated.juggleQueue
  | clientTick x content => exact passOk_tick (clientTick_tick hl) (clientTick_passLeft hl) h hy
  | leaderTick bg => exact passOk_tick (leaderTick_tick hl) (leaderTick_passLeft hl) h hy
  | pipeReadable bg => exact passOk_tick (pipeReadable_tick hl) (pipeReadable_passLeft hl) h hy

theorem passOk_of_reachable (hreach : Reachable d σ) (hy : (σ y).crashed = false) :
    PassOk (σ y) :=
  hreach.induct (P := fun σ => ∀ y, (σ y).crashed = false → PassOk (σ y))
    (fun _ _ => Nat.le_refl 0) (fun _ _ h hs => passOk_step hs h) y hy

/-! ## Listeners -/

/-- Fewer bytes wait for the listener of each leader than fill its buffer: less than 32 ticks. -/
def ShortPipes (d : Deployment) (σ : Cluster) : Prop :=
  ∀ b, d.Has (b, 0) → (σ (b, 0)).pipe < pipeReadBuffer

/-- A listener that has ended is one of a leader, whose pipe filled the buffer. -/
def ListenersOk (d : Deployment) (σ : Cluster) : Prop :=
  ∀ y, (σ y).listenerEnded ≠ none → d.Has y ∧ y.2 = 0 ∧ pipeReadBuffer ≤ (σ y).pipe

theorem ListenersOk.listening (h : ListenersOk d σ) (hpipes : ShortPipes d σ) (y : Peer) :
    (σ y).listenerEnded = none := by
  by_contra hended
  obtain ⟨hhas, hleader, hfull⟩ := h y hended
  obtain ⟨b, i⟩ := y
  obtain rfl : i = 0 := hleader
  exact absurd (hpipes b hhas) (Nat.not_lt.mpr hfull)

/-- A dispatch has nothing to do with the pipes. -/
theorem Cluster.DispatchTo.listener {o : Outcome} (hd : DispatchTo d σ σ' x e before o)
    (hpipe : before.pipe = (σ x).pipe)
    (hlistener : before.listenerEnded.isNone = (σ x).listenerEnded.isNone) (y : Peer) :
    (σ' y).pipe = (σ y).pipe ∧ ((σ' y).listenerEnded = none ↔ (σ y).listenerEnded = none) := by
  rw [hd.result]
  by_cases hy : y = x
  · subst hy
    rw [install_pipe_self, install_listenerEnded_self, ← Option.isNone_iff_eq_none, hlistener,
      Option.isNone_iff_eq_none]
    exact ⟨hpipe, Iff.rfl⟩
  · rw [install_pipe_of_ne hy, install_listenerEnded_of_ne hy]
    exact ⟨rfl, Iff.rfl⟩

section

variable (h : ListenersOk d σ)

include h

theorem ListenersOk.dispatch (hsame : ∀ y, (σ' y).pipe = (σ y).pipe
    ∧ ((σ' y).listenerEnded = none ↔ (σ y).listenerEnded = none)) : ListenersOk d σ' := by
  intro y hended
  obtain ⟨hpipe, hlistener⟩ := hsame y
  rw [hpipe]
  exact h y (mt hlistener.mpr hended)

theorem ListenersOk.clientTick {content : List UInt8} (hl : clientTick d x content σ = some σ') :
    ListenersOk d σ' := by
  unfold Cluster.clientTick at hl
  split at hl
  · rw [← Option.some.inj hl]
    exact h
  · cases hl

theorem ListenersOk.leaderTick (hl : leaderTick d b σ = some σ') : ListenersOk d σ' := by
  unfold Cluster.leaderTick at hl
  split at hl
  · rw [← Option.some.inj hl]
    intro y hended
    by_cases hy : y = (b, 0)
    · subst hy
      rw [Function.update_self] at hended ⊢
      obtain ⟨hhas, hleader, hfull⟩ := h _ hended
      exact ⟨hhas, hleader, Nat.le_add_right_of_le hfull⟩
    · rw [Function.update_of_ne hy] at hended ⊢
      exact h y hended
  · cases hl

theorem ListenersOk.pipeReadable (hl : pipeReadable d b σ = some σ') : ListenersOk d σ' := by
  obtain ⟨hhas, -, hruns, hcases⟩ := pipeReadable_cases hl
  intro y hended
  by_cases hy : y = (b, 0)
  · subst hy
    rcases hcases with ⟨-, rfl⟩ | ⟨hfull, rfl⟩
    · rw [Function.update_self] at hended
      exact absurd hruns hended
    · rw [Function.update_self]
      exact ⟨hhas, rfl, hfull⟩
  · rw [pipeReadable_of_ne hl hy] at hended ⊢
    exact h y hended

end

/-- The listener only empties a pipe. -/
theorem ShortPipes.pipeReadable (h : ShortPipes d σ) (hl : pipeReadable d b σ = some σ') :
    ShortPipes d σ' := by
  obtain ⟨-, -, -, hcases⟩ := pipeReadable_cases hl
  intro b' hb'
  by_cases hy : (b', 0) = (b, 0)
  · rw [hy]
    rw [hy] at hb'
    rcases hcases with ⟨-, rfl⟩ | ⟨hfull, -⟩
    · rw [Function.update_self]
      exact show 0 < pipeReadBuffer by decide
    · exact absurd (h b hb') (Nat.not_lt.mpr hfull)
  · rw [pipeReadable_of_ne hl hy]
    exact h b' hb'

theorem listenersOk_of_reachable (hreach : Reachable d σ) : ListenersOk d σ := by
  refine hreach.induct (P := ListenersOk d) (fun y hended => absurd rfl hended)
    fun σ σ' h hs => ?_
  obtain ⟨l, hl⟩ := hs
  cases l with
  | receive x i ω =>
    obtain ⟨e, before, hd, -, -, -, -, hpipe, hlistener⟩ := receive_dispatch hl
    exact h.dispatch (hd.to.listener hpipe hlistener)
  | retry x ω =>
    obtain ⟨e, before, hd, -, -, -, hpipe, hlistener⟩ := retry_dispatch hl
    exact h.dispatch (hd.to.listener hpipe (by rw [hlistener]))
  | clientTick x content => exact h.clientTick hl
  | leaderTick bg => exact h.leaderTick hl
  | pipeReadable bg => exact h.pipeReadable hl

theorem ShortPipes.internal (h : ShortPipes d σ) (hs : Internal d σ σ') : ShortPipes d σ' := by
  obtain ⟨l, htick, hl⟩ := hs
  cases l with
  | receive x i ω =>
    obtain ⟨e, before, hd, -, -, -, -, hpipe, hlistener⟩ := receive_dispatch hl
    exact fun b hb => (hd.to.listener hpipe hlistener (b, 0)).1 ▸ h b hb
  | retry x ω =>
    obtain ⟨e, before, hd, -, -, -, hpipe, hlistener⟩ := retry_dispatch hl
    exact fun b hb => (hd.to.listener hpipe (by rw [hlistener]) (b, 0)).1 ▸ h b hb
  | clientTick x content => cases htick
  | leaderTick bg => cases htick
  | pipeReadable bg => exact h.pipeReadable hl

/-- Without ticks no listener ends, when none has got too many before. -/
theorem ShortPipes.listening (hpipes : ShortPipes d σ) (hreach : Reachable d σ)
    (hrun : Relation.ReflTransGen (Internal d) σ σ') (y : Peer) : (σ' y).listenerEnded = none := by
  have hreach' : Reachable d σ' :=
    invariant_of_run (I := Reachable d) (fun h hs => h.internal hs) hreach hrun
  have hpipes' : ShortPipes d σ' :=
    invariant_of_run (I := ShortPipes d) (fun h hs => h.internal hs) hpipes hrun
  exact (listenersOk_of_reachable hreach').listening hpipes' y

/-! ## Rest -/

theorem step_eq_none (hrest : Resting (Internal d) σ) {l : Label} (hl : l.isTick = false) :
    step d σ l = none :=
  Option.eq_none_iff_forall_ne_some.mpr fun σ' hs => hrest σ' ⟨l, hl, hs⟩

/-- At rest no pass is running. -/
theorem resting_passLeft (hreach : Reachable d σ) (hrest : Resting (Internal d) σ) (hy : d.Has y)
    (halive : (σ y).crashed = false) : (σ y).passLeft = 0 := by
  let ω : Choice := { draw := fun _ => 0, top := 0 }
  by_contra hne
  obtain ⟨e, rest, hj⟩ := (passOk_of_reachable hreach halive).exists_front hne
  have hnone : retry d y ω σ = none := step_eq_none (l := .retry y ω) hrest rfl
  unfold retry at hnone
  dsimp only at hnone
  rw [hj] at hnone
  dsimp only at hnone
  rw [if_pos ⟨hy, halive, Nat.pos_of_ne_zero hne⟩] at hnone
  cases hnone

/-- A server that runs and listens has nothing left in its inbox at rest. -/
theorem resting_node (hreach : Reachable d σ) (hrest : Resting (Internal d) σ) (hy : d.Has y)
    (halive : (σ y).crashed = false) (hlistens : (σ y).listenerEnded = none) :
    (σ y).inbox = [] ∧ (σ y).passLeft = 0 := by
  let ω : Choice := { draw := fun _ => 0, top := 0 }
  have hleft := resting_passLeft hreach hrest hy halive
  refine ⟨?_, hleft⟩
  cases hinbox : (σ y).inbox with
  | nil => rfl
  | cons e rest =>
    have hnone : receive d y 0 ω σ = none := step_eq_none (l := .receive y 0 ω) hrest rfl
    unfold receive at hnone
    dsimp only at hnone
    rw [hinbox, List.getElem?_cons_zero] at hnone
    dsimp only at hnone
    rw [if_pos ⟨hy, halive, hleft, by unfold Node.receivable; rw [hlistens]⟩] at hnone
    cases hnone

/-- A listener that runs and has nothing to do has an empty pipe. -/
theorem pipe_eq_zero (hnone : pipeReadable d b σ = none) (hy : d.Has (b, 0))
    (hlistens : (σ (b, 0)).listenerEnded = none) : (σ (b, 0)).pipe = 0 := by
  by_contra hne
  unfold pipeReadable at hnone
  dsimp only at hnone
  rw [if_pos ⟨hy, Nat.pos_of_ne_zero hne, hlistens⟩] at hnone
  cases hnone

theorem resting_pipe (hrest : Resting (Internal d) σ) (hy : d.Has (b, 0))
    (hlistens : (σ (b, 0)).listenerEnded = none) : (σ (b, 0)).pipe = 0 :=
  pipe_eq_zero (step_eq_none (l := .pipeReadable b) hrest rfl) hy hlistens

/--
**Without the clients the servers come to rest.** From any reachable state there is no infinite run
without batches of the clients, whatever the order of the steps is and whatever the SLs draw; every
run can be continued until no step is possible, and then no SL that has not crashed is in a pass.
If all listeners run, each of them waits for its next message: its inbox is empty, and so is the
pipe of a leader. They all run, unless the ticks before have filled the buffer of one.
-/
theorem servers_come_to_rest (hreach : Reachable d σ) :
    (∀ states : Nat → Cluster, states 0 = σ → ¬ ∀ n, Internal d (states n) (states (n + 1)))
      ∧ (∃ σ', Relation.ReflTransGen (Internal d) σ σ' ∧ Resting (Internal d) σ')
      ∧ ∀ σ', Relation.ReflTransGen (Internal d) σ σ' → Resting (Internal d) σ' →
        (∀ y, d.Has y → (σ' y).crashed = false → (σ' y).passLeft = 0)
          ∧ ((∀ y, (σ' y).listenerEnded = none) →
            (∀ y, d.Has y → (σ' y).crashed = false → (σ' y).inbox = [])
              ∧ ∀ b, d.Has (b, 0) → (σ' (b, 0)).pipe = 0)
          ∧ (ShortPipes d σ → ∀ y, (σ' y).listenerEnded = none) := by
  have hterminates := servers_terminate hreach
  refine ⟨hterminates.not_infinite, hterminates.exists_resting, fun σ' hrun hrest => ?_⟩
  have hreach' : Reachable d σ' :=
    invariant_of_run (I := Reachable d) (fun h hs => h.internal hs) hreach hrun
  refine ⟨fun y hy => resting_passLeft hreach' hrest hy, fun hlistens => ⟨?_, ?_⟩,
    fun hpipes => hpipes.listening hreach hrun⟩
  · exact fun y hy halive => (resting_node hreach' hrest hy halive (hlistens y)).1
  · exact fun b hb => resting_pipe hrest hb (hlistens (b, 0))

/-- The two BGs come to rest after they have closed cycle 2 at one SL. -/
theorem twoBGs_come_to_rest : ∃ σ, Reachable twoBGs σ ∧ closedOf (σ (1, 0)).sl.history = [2]
    ∧ ∃ σ', Relation.ReflTransGen (Internal twoBGs) σ σ' ∧ Resting (Internal twoBGs) σ' := by
  obtain ⟨σ, hreach, hclosed, -⟩ := overtakingRun_result
  exact ⟨σ, hreach, hclosed, (servers_come_to_rest hreach).2.1⟩

/-! ## What has been done at rest -/

/-- Everything that was issued is committed, and every cycle that all BGs have started is closed. -/
structure Complete (d : Deployment) (σ : Cluster) : Prop where
  entries : ∀ b < d.conf.numBG, ∀ i < d.conf.numSL b,
    entries σ (b, i) = (issued σ b).map entryOf
  queue : ∀ b < d.conf.numBG, (σ (b, 0)).sl.pLeaderRound2PendingPreprepareRaw = []
  idle : ∀ b < d.conf.numBG, (σ (b, 0)).sl.pRound2CurrentStatus = none
  closed : ∀ c, (∀ A < d.conf.numBG, c ∈ clientCycles σ A) → ∀ y, d.Has y →
    c ∈ closedOf (σ y).sl.history

section Rest

variable (hvalid : d.conf.Valid) (hreach : Reachable d σ) (hrest : Resting (Internal d) σ)
  (hlistens : ∀ y, (σ y).listenerEnded = none)

include hvalid hreach hrest hlistens

theorem resting_quiescent : Quiescent d σ := fun y hy =>
  resting_node hreach hrest hy (crashed_eq_false hvalid hreach hy.1) (hlistens y)

theorem resting_waits (hy : d.Has y) (he : e ∈ pool σ y) : Waits (σ y).sl e.pMessage :=
  (resting_quiescent hvalid hreach hrest hlistens).waits (juggleOk_of_reachable hreach) hy
    (crashed_eq_false hvalid hreach hy.1) he

theorem resting_ended (hb : b < d.conf.numBG) (hwrap : ¬ Wrapped σ b) : Ended d σ b := by
  have hok := round3Ok_of_reachable hvalid.fits hreach
  have hpos : 0 < d.conf.numSL b := (hvalid.quorum b hb).1
  have halive : ∀ i < d.conf.numSL b, (σ (b, i)).crashed = false := fun i hi =>
    crashed_eq_false hvalid hreach hb
  obtain ⟨a, log, hinv⟩ := round2Inv_of_reachable hreach ⟨hb, hpos⟩
  exact ended_of_waits hinv hpos
    (fun j hj e he => resting_waits hvalid hreach hrest hlistens ⟨hb, hj⟩ he) halive
    (fun j hj => hok.unstuck _ (halive j hj)) hwrap

theorem resting_complete (hwrap : ∀ b < d.conf.numBG, ¬ Wrapped σ b) : Complete d σ := by
  obtain ⟨token, h⟩ := (round3Ok_of_reachable hvalid.fits hreach).inv
  have hended := fun b hb => resting_ended hvalid hreach hrest hlistens hb (hwrap b hb)
  have hwaits := fun y hy e he => resting_waits hvalid hreach hrest hlistens (y := y) (e := e) hy he
  have hdrained : Drained d.layout (exchange σ token) := by
    refine ⟨fun b hb => (hended b hb).committed, fun b hb => ?_,
      fun b hb c => hvalid.exists_envoy hb c,
      fun k b hb A hA c htrigger => ?_⟩
    · exact List.map_eq_nil_iff.mpr (hended b hb).queue
    · have htrigger : ∀ j < d.conf.numSL A, k.trigger c ∈ entries σ (A, j) := fun j hj => by
        rw [(hended A hA).committed j hj]
        exact htrigger
      -- a token that is under way would leave a message that does not wait
      cases htoken : token k b A c with
      | idle => exact Or.inl htoken
      | done => exact Or.inr htoken
      | asked j =>
        have hj := h.inv.asked_lt k b A c j htoken (hvalid.quorum A hA).1
        exact absurd htoken (not_asked h hwaits hA hj (htrigger j hj))
      | pending j =>
        obtain ⟨hj, hnot⟩ := h.inv.pending k b A c j htoken
        exact absurd (htrigger j hj) hnot
      | answered i =>
        have hi := h.inv.answered_lt k b A c i htoken
        exact absurd htoken (not_answered h hwaits (hended b hb).committed hb hi)
  refine ⟨fun b hb => (hended b hb).committed, fun b hb => (hended b hb).queue,
    fun b hb => (hended b hb).idle, fun c hclient y hy => ?_⟩
  have hlog : closer d.conf.numBG c ∈ (issued σ y.1).map entryOf :=
    hdrained.closed h.inv (fun A hA => mem_clientCycles.mp (hclient A hA)) hy.1
  rw [(h.sl y).closed, (h.sl y).storage]
  refine mem_closed.mpr ?_
  show closer d.conf.numBG c ∈ entries σ y
  rw [show y = (y.1, y.2) from rfl, (hended y.1 hy.1).committed y.2 hy.2]
  exact hlog

end Rest

/-! ## Batches -/

/-- A run of the servers has no ticks. -/
theorem exists_labels (h : Relation.ReflTransGen (Internal d) σ σ') :
    ∃ rest : List Label, (∀ l ∈ rest, l.isTick = false) ∧ run d σ rest = some σ' := by
  induction h using Relation.ReflTransGen.head_induction_on with
  | refl => exact ⟨[], fun l hl => absurd hl List.not_mem_nil, rfl⟩
  | head hs _ ih =>
    obtain ⟨l, htick, hl⟩ := hs
    obtain ⟨rest, hrest, hrun⟩ := ih
    refine ⟨l :: rest, List.forall_mem_cons.mpr ⟨htick, hrest⟩, ?_⟩
    unfold run
    rw [hl, Option.bind_some, hrun]

/-- The clients of a BG have sent at least `k` batches at every SL. -/
structure Ticked (d : Deployment) (b k : Nat) (labels : List Label) : Prop where
  leader : k ≤ labels.countP (Label.isLeaderTick b)
  others : ∀ i, 1 ≤ i → i < d.conf.numSL b →
    k ≤ labels.countP (Label.isBatchFrom b (UInt16.ofNat i))

/-- Without ticks the account of the batches stays as it is. -/
theorem BatchesOk.of_append (h : BatchesOk d b (labels ++ rest) σ)
    (htick : ∀ l ∈ rest, l.isTick = false) : BatchesOk d b labels σ := by
  have hleader : rest.countP (Label.isLeaderTick b) = 0 :=
    List.countP_eq_zero.mpr fun l hl => by
      have := htick l hl
      cases l <;> simp_all [Label.isTick, Label.isLeaderTick]
  have hbatch : ∀ sender, rest.countP (Label.isBatchFrom b sender) = 0 := fun sender =>
    List.countP_eq_zero.mpr fun l hl => by
      have := htick l hl
      cases l <;> simp_all [Label.isTick, Label.isBatchFrom]
  refine ⟨?_, fun sender hsender => ?_, h.countable, h.noBatches, h.awake⟩
  · have hcounters := h.counters
    rwa [List.countP_append, hleader, Nat.add_zero] at hcounters
  · have hsent := h.sent sender hsender
    rwa [List.countP_append, hbatch sender, Nat.add_zero] at hsent

theorem BatchesOk.internal (h : BatchesOk d b labels σ)
    (hrun : Relation.ReflTransGen (Internal d) σ σ') : BatchesOk d b labels σ' := by
  obtain ⟨rest, htick, hrun⟩ := exists_labels hrun
  exact (h.run hrun).of_append htick

/-- A leader with nothing left to do has used all batches that it could. -/
theorem BatchesOk.clientsIssued_ge (hbatches : BatchesOk d b labels σ)
    (hsize : d.conf.numSL b ≤ 2 ^ 16) (halive : (σ (b, 0)).crashed = false)
    (hinbox : (σ (b, 0)).inbox = []) (hpipe : (σ (b, 0)).pipe = 0) (hended : Ended d σ b) {k : Nat}
    (hticked : Ticked d b k labels) : k ≤ (σ (b, 0)).sl.clientsIssued := by
  have hasleep : canStartRound2Value (d.env (b, 0)) (σ (b, 0)).sl = false := by
    rcases hbatches.awake halive with hasleep | hwake | ⟨e, he, -⟩
    · exact hasleep
    · exact absurd hpipe hwake.ne'
    · rw [hinbox] at he
      exact absurd he List.not_mem_nil
  have hwaiting : ∀ sender, waitingBatches σ b sender = 0 := fun sender => by
    unfold waitingBatches pool
    rw [hinbox, Multiset.coe_nil, zero_add]
    exact countP_batchOf_eq_zero (l := ↑(σ (b, 0)).sl.juggleQueue)
      (hbatches.noBatches (b, 0)).juggled sender
  rw [hbatches.counters.issued]
  by_contra hlt
  rw [Nat.not_le] at hlt
  -- all batches of the next cycle are there, so the leader would start it
  unfold canStartRound2Value at hasleep
  rw [hended.idle, hended.queue, ← Bool.not_eq_true] at hasleep
  refine hasleep (Bool.and_eq_true_iff.mpr ⟨List.all_eq_true.mpr fun i hi => ?_, ?_⟩)
  · obtain ⟨hi, hpos⟩ := List.mem_filter.mp hi
    have hi : i < d.conf.numSL b := List.mem_range.mp hi
    have hid : (UInt16.ofNat i).toNat = i := by
      rw [UInt16.toNat_ofNat', Nat.mod_eq_of_lt]
      exact hi.trans_le hsize
    have hsent := hbatches.sent (UInt16.ofNat i) (by rwa [hid])
    rw [hwaiting, hid, Nat.add_zero] at hsent
    have := hticked.others i (of_decide_eq_true hpos) hi
    exact decide_eq_true (by omega)
  · have := hbatches.counters.fromSelf_eq
    have := hticked.leader
    exact decide_eq_true (by omega)

/-- Cycle `c` is one of the first `k`. -/
theorem mem_clientCycles_of_le (h : ClientsOk d σ b) {k : Nat}
    (hk : k ≤ (clientCycles σ b).length) (hc : c.toNat ∈ Set.Icc 1 k) : c ∈ clientCycles σ b := by
  rw [h.cycles]
  refine List.mem_map.mpr ⟨c.toNat - 1, List.mem_range.mpr ?_, ?_⟩
  · have := hc.1
    have := hc.2
    omega
  · rw [Nat.sub_add_cancel hc.1, UInt16.ofNat_toNat]

/--
**Every batch leads to a cycle that all SLs close.** Take any run of a valid configuration in which
the clients have sent at least `k` batches at every SL of every BG, too few for a sequence counter
to wrap, and in no pipe enough of them wait to fill the buffer of the listener. Without further
batches the servers come to rest, in whatever order they go on, and at rest every SL of every BG has
passed the cycles 1 to `k` to `round3_committed`.
-/
theorem batches_close_cycles (hvalid : d.conf.Valid) (hrun : run d init labels = some σ)
    (hpipes : ShortPipes d σ) {k : Nat} (hticked : ∀ b < d.conf.numBG, Ticked d b k labels)
    (hshort : ∀ b < d.conf.numBG,
      (d.conf.numBG + 3) * labels.countP (Label.isLeaderTick b) + 1 < 2 ^ 16) :
    Terminates (Internal d) σ
      ∧ ∀ σ', Relation.ReflTransGen (Internal d) σ σ' → Resting (Internal d) σ' →
        ∀ c : UInt16, c.toNat ∈ Set.Icc 1 k → ∀ y, d.Has y → c ∈ closedOf (σ' y).sl.history := by
  have hreach : Reachable d σ := reachable_of_run .refl hrun
  refine ⟨servers_terminate hreach, fun σ' hinternal hrest c hc y hy => ?_⟩
  have hreach' : Reachable d σ' :=
    invariant_of_run (I := Reachable d) (fun h hs => h.internal hs) hreach hinternal
  have hlistens := hpipes.listening hreach hinternal
  have hbatches := fun b => ((batchesOk_init d b).run hrun).internal hinternal
  have hwrap : ∀ b < d.conf.numBG, ¬ Wrapped σ' b := fun b hb => by
    have hlen := length_issued_le hvalid.fits hreach' hb
    have hclients : (σ' (b, 0)).sl.clientsIssued ≤ labels.countP (Label.isLeaderTick b) :=
      (hbatches b).counters.issued.trans_le (hbatches b).counters.le_fromSelf
    have hmul := Nat.mul_le_mul_left (d.conf.numBG + 3) hclients
    have := hshort b hb
    unfold Wrapped
    omega
  obtain ⟨token, h⟩ := (round3Ok_of_reachable hvalid.fits hreach').inv
  refine (resting_complete hvalid hreach' hrest hlistens hwrap).closed c (fun A hA => ?_) y hy
  refine mem_clientCycles_of_le (h.clients A) ?_ hc
  rw [length_clientCycles]
  have hhas : d.Has (A, 0) := ⟨hA, (hvalid.quorum A hA).1⟩
  have halive : (σ' (A, 0)).crashed = false := crashed_eq_false hvalid hreach' hA
  exact (hbatches A).clientsIssued_ge (hvalid.numSL A) halive
    (resting_node hreach' hrest hhas halive (hlistens _)).1 (resting_pipe hrest hhas (hlistens _))
    (resting_ended hvalid hreach' hrest hlistens hA (hwrap A hA)) (hticked A hA)

/-- One batch of each of the three SLs. -/
def oneBatchEach : List Label :=
  [.clientTick (0, 1) zeroBatch, .leaderTick 0, .leaderTick 1]

theorem oneBatchEach_ticked : ∀ b < 2, Ticked twoBGs b 1 oneBatchEach := by
  intro b hb
  rcases Nat.le_one_iff_eq_zero_or_eq_one.mp (Nat.le_of_lt_succ hb) with rfl | rfl
  · refine ⟨Nat.le_refl 1, fun i hpos hi => ?_⟩
    have hi : i < 2 := hi
    obtain rfl : i = 1 := by omega
    exact Nat.le_refl 1
  · refine ⟨Nat.le_refl 1, fun i hpos hi => ?_⟩
    have hi : i < 1 := hi
    omega

theorem oneBatchEach_ticks : ∀ b < 2, oneBatchEach.countP (Label.isLeaderTick b) = 1 := by
  intro b hb
  rcases Nat.le_one_iff_eq_zero_or_eq_one.mp (Nat.le_of_lt_succ hb) with rfl | rfl <;> rfl

theorem oneBatchEach_short {σ : Cluster} (h₀ : (σ (0, 0)).pipe = 2) (h₁ : (σ (1, 0)).pipe = 2) :
    ShortPipes twoBGs σ := by
  intro b hb
  have hb : b < 2 := hb.1
  rcases Nat.le_one_iff_eq_zero_or_eq_one.mp (Nat.le_of_lt_succ hb) with rfl | rfl
  · rw [h₀]
    decide
  · rw [h₁]
    decide

theorem twoBGs_batches_close_cycles : ∃ σ σ', run twoBGs init oneBatchEach = some σ
    ∧ Relation.ReflTransGen (Internal twoBGs) σ σ' ∧ Resting (Internal twoBGs) σ'
    ∧ ∀ y, twoBGs.Has y → 1 ∈ closedOf (σ' y).sl.history := by
  have hbatch : zeroBatch.length = requestBatchSize := List.length_replicate
  have hrun : (run twoBGs (sendBatch zeroBatch init) [.leaderTick 0, .leaderTick 1]).map
      (fun σ => ((σ (0, 0)).pipe, (σ (1, 0)).pipe)) = some (2, 2) := by decide +kernel
  obtain ⟨σ, hσ, hpipe⟩ := Option.map_eq_some_iff.mp hrun
  obtain ⟨h₀, h₁⟩ := Prod.mk.inj hpipe
  have hall : run twoBGs init oneBatchEach = some σ := by
    unfold oneBatchEach
    rw [run_clientTick hbatch, hσ]
  have hshort : ∀ b < 2, (2 + 3) * oneBatchEach.countP (Label.isLeaderTick b) + 1 < 2 ^ 16 :=
    fun b hb => by
      rw [oneBatchEach_ticks b hb]
      decide
  have hmain := batches_close_cycles (k := 1) valid_twoBGs hall (oneBatchEach_short h₀ h₁)
    oneBatchEach_ticked hshort
  obtain ⟨σ', hinternal, hrest⟩ := hmain.1.exists_resting
  exact ⟨σ, σ', hall, hinternal, hrest, hmain.2 σ' hinternal hrest 1 (by decide)⟩

end RCanopus
