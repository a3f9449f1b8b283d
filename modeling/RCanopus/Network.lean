import RCanopus.Cluster
import Mathlib.Algebra.Order.Group.Multiset
import Mathlib.Data.Multiset.Filter

/-!
# Steps as calls of the dispatcher

The messages that wait at an SL are those in its inbox and those it juggled, its `pool`. Both steps
of the main loop take one element out of the pool and dispatch it, so a step is a `Dispatch` or a
`Tick` of the clients.
-/

namespace RCanopus

namespace Cluster

variable {d : Deployment} {σ σ' : Cluster} {x y : Peer}

/-- What holds at the start and is kept by every step holds in all runs. -/
theorem Reachable.induct {P : Cluster → Prop} (h : Reachable d σ) (hinit : P init)
    (hstep : ∀ σ σ', P σ → Step d σ σ' → P σ') : P σ := by
  induction h with
  | refl => exact hinit
  | tail _ hs ih => exact hstep _ _ ih hs

theorem Reachable.step (h : Reachable d σ) (hs : Step d σ σ') : Reachable d σ' :=
  Relation.ReflTransGen.tail h hs

/-- All states of a run are reachable. -/
theorem reachable_of_run {labels : List Label} (h : Reachable d σ)
    (hr : run d σ labels = some σ') : Reachable d σ' := by
  induction labels generalizing σ with
  | nil =>
    cases hr
    exact h
  | cons l labels ih =>
    obtain ⟨τ, hl, hr⟩ := Option.bind_eq_some_iff.mp hr
    exact ih (h.step ⟨l, hl⟩) hr

/-! ## Pools -/

/-- The messages that wait at `x`. -/
def pool (σ : Cluster) (x : Peer) : Multiset QueueElement :=
  ↑(σ x).inbox + ↑(σ x).sl.juggleQueue

/-- What `y` gets when `x` sends some elements. -/
def sent (x : Peer) (elements : List QueueElement) (y : Peer) : Multiset QueueElement :=
  ↑(elements.flatMap fun e => deliveries x e y)

@[simp] theorem sent_nil : sent x [] y = 0 := rfl

theorem sent_append (l l' : List QueueElement) :
    sent x (l ++ l') y = sent x l y + sent x l' y := by
  unfold sent
  rw [List.flatMap_append, ← Multiset.coe_add]

theorem sent_singleton (e : QueueElement) : sent x [e] y = ↑(deliveries x e y) := by
  unfold sent
  rw [List.flatMap_singleton]

/-- The copies that a delivery makes. -/
theorem mem_deliveries {e e' : QueueElement} (h : e' ∈ deliveries x e y) :
    e'.pMessage = e.pMessage.copy
      ∧ ((y = x ∧ none ∈ e.upPeers ∧ e'.upPeers = [none])
        ∨ (some y ∈ e.upPeers ∧ e'.upPeers = [some x])) := by
  unfold deliveries at h
  rcases List.mem_append.mp h with h | h
  · split at h
    · next hc =>
      rw [List.mem_singleton] at h
      subst h
      exact ⟨rfl, Or.inl ⟨hc.1, hc.2, rfl⟩⟩
    · exact absurd h List.not_mem_nil
  · obtain ⟨p, hp, rfl⟩ := List.mem_map.mp h
    have := List.mem_filter.mp hp
    refine ⟨rfl, Or.inr ⟨?_, rfl⟩⟩
    rw [← of_decide_eq_true this.2]
    exact this.1

/-! ## Dispatches -/

/--
A step of `x` on `e`: `before` is the node without `e`, and the dispatcher leads from there to the
node of `σ'`.
-/
structure Dispatch (d : Deployment) (σ σ' : Cluster) (x : Peer) (e : QueueElement) (ω : Choice)
    (before : Node) : Prop where
  has : d.Has x
  alive : (σ x).crashed = false
  taken : pool σ x = e ::ₘ (↑before.inbox + ↑before.sl.juggleQueue)
  sl_eq : before.sl = { (σ x).sl with juggleQueue := before.sl.juggleQueue }
  result : σ' = install x before (dispatcherRound2 (d.env x) ω e before.sl) σ

/-- A step of `x` on `e` that ends with the outcome `o`, whatever the dispatcher is. -/
structure DispatchTo (d : Deployment) (σ σ' : Cluster) (x : Peer) (e : QueueElement)
    (before : Node) (o : Outcome) : Prop where
  has : d.Has x
  alive : (σ x).crashed = false
  taken : pool σ x = e ::ₘ (↑before.inbox + ↑before.sl.juggleQueue)
  sl_eq : before.sl = { (σ x).sl with juggleQueue := before.sl.juggleQueue }
  result : σ' = install x before o σ

theorem Dispatch.to {e : QueueElement} {ω : Choice} {before : Node}
    (h : Dispatch d σ σ' x e ω before) :
    DispatchTo d σ σ' x e before (dispatcherRound2 (d.env x) ω e before.sl) :=
  ⟨h.has, h.alive, h.taken, h.sl_eq, h.result⟩

/-- A step of a client: nothing but new batches and wake-ups at leaders. -/
structure Tick (d : Deployment) (σ σ' : Cluster) : Prop where
  sl_eq : ∀ y, ∃ k, (σ' y).sl = { (σ y).sl with leaderBatchReceivedFromSelf := k }
  crashed_eq : ∀ y, (σ' y).crashed = (σ y).crashed
  pool_eq : ∀ y, ∃ l : List QueueElement, pool σ' y = pool σ y + ↑l ∧ ∀ e ∈ l, y.2 = 0
    ∧ (e.pMessage = .empty emptyMessage
      ∨ ∃ sl content, sl < d.conf.numSL y.1
        ∧ e.pMessage = .round2Request (mockClientRequest sl content))

theorem receive_dispatch {i : Nat} {ω : Choice} (h : receive d x i ω σ = some σ') :
    ∃ e before, Dispatch d σ σ' x e ω before ∧ (σ x).inbox[i]? = some e
      ∧ before.sl = (σ x).sl
      ∧ before.passLeft = (dispatcherRound2 (d.env x) ω e before.sl).state.juggleQueue.length
      ∧ before.inbox = (σ x).inbox.eraseIdx i ∧ before.pipe = (σ x).pipe
      ∧ before.listenerEnded.isNone = (σ x).listenerEnded.isNone := by
  unfold receive at h
  dsimp only at h
  split at h
  · exact absurd h (by simp)
  · next e he =>
    split at h
    · next hc =>
      obtain ⟨hhas, halive, -⟩ := hc
      rw [Option.some.injEq] at h
      refine ⟨e, { σ x with
        inbox := (σ x).inbox.eraseIdx i
        passLeft := (dispatcherRound2 (d.env x) ω e (σ x).sl).state.juggleQueue.length
        listenerEnded := (σ x).listenerEnded.map fun k => if i < k then k - 1 else k },
        ⟨hhas, halive, ?_, rfl, h.symm⟩, he, rfl, rfl, rfl, rfl, Option.isNone_map⟩
      obtain ⟨hi, hget⟩ := List.getElem?_eq_some_iff.mp he
      have hperm : (σ x).inbox.Perm (e :: (σ x).inbox.eraseIdx i) := by
        rw [← hget]
        exact (List.getElem_cons_eraseIdx_perm hi).symm
      unfold pool
      rw [Multiset.coe_eq_coe.mpr hperm, ← Multiset.cons_coe, Multiset.cons_add]
    · exact absurd h (by simp)

theorem retry_dispatch {ω : Choice} (h : retry d x ω σ = some σ') :
    ∃ e before, Dispatch d σ σ' x e ω before
      ∧ (σ x).sl.juggleQueue = e :: before.sl.juggleQueue
      ∧ (σ x).passLeft = before.passLeft + 1 ∧ before.inbox = (σ x).inbox
      ∧ before.pipe = (σ x).pipe ∧ before.listenerEnded = (σ x).listenerEnded := by
  unfold retry at h
  dsimp only at h
  split at h
  · exact absurd h (by simp)
  · next e rest hj =>
    split at h
    · next hc =>
      obtain ⟨hhas, halive, hleft⟩ := hc
      rw [Option.some.injEq] at h
      refine ⟨e, { σ x with
        sl := { (σ x).sl with juggleQueue := rest }
        passLeft := (σ x).passLeft - 1 }, ⟨hhas, halive, ?_, rfl, h.symm⟩, hj,
        (Nat.sub_add_cancel hleft).symm, rfl, rfl, rfl⟩
      unfold pool
      rw [hj, ← Multiset.cons_coe, Multiset.add_cons]
    · exact absurd h (by simp)

theorem clientTick_tick {content : List UInt8} (h : clientTick d x content σ = some σ') :
    Tick d σ σ' := by
  unfold clientTick at h
  split at h
  · next hc =>
    rw [Option.some.injEq] at h
    subst h
    let element : QueueElement :=
      { upPeers := [some (x.1, 0)]
        pMessage := .round2Request (mockClientRequest x.2 content) }
    refine ⟨fun y => ⟨_, rfl⟩, fun y => rfl, fun y =>
      ⟨[element].flatMap fun e => deliveries x e y, ?_, ?_⟩⟩
    · unfold pool send
      rw [← Multiset.coe_add, add_right_comm]
    · intro e he
      rw [List.flatMap_singleton] at he
      obtain ⟨hm, h | h⟩ := mem_deliveries he
      · exact absurd h.2.1 (by simp [element])
      · have hy : y = (x.1, 0) := by simpa [element] using h.1
        subst hy
        refine ⟨rfl, Or.inr ⟨x.2, _, hc.1.2, hm⟩⟩
  · exact absurd h (by simp)

/-- A step of a client that changes one leader only. -/
theorem Tick.of_update {bg : Nat} {node : Node} {l : List QueueElement} {k : Nat}
    (hsl : node.sl = { (σ (bg, 0)).sl with leaderBatchReceivedFromSelf := k })
    (hcrashed : node.crashed = (σ (bg, 0)).crashed)
    (hinbox : node.inbox = (σ (bg, 0)).inbox ++ l)
    (hl : ∀ e ∈ l, e.pMessage = .empty emptyMessage) :
    Tick d σ (Function.update σ (bg, 0) node) := by
  refine ⟨fun y => ?_, fun y => ?_, fun y => ?_⟩ <;> by_cases hy : y = (bg, 0)
  · subst hy
    rw [Function.update_self]
    exact ⟨k, hsl⟩
  · rw [Function.update_of_ne hy]
    exact ⟨_, rfl⟩
  · subst hy
    rw [Function.update_self, hcrashed]
  · rw [Function.update_of_ne hy]
  · subst hy
    refine ⟨l, ?_, fun e he => ⟨rfl, Or.inl (hl e he)⟩⟩
    unfold pool
    rw [Function.update_self, hinbox, hsl, ← Multiset.coe_add, add_right_comm]
  · refine ⟨[], ?_, fun e he => absurd he List.not_mem_nil⟩
    unfold pool
    rw [Function.update_of_ne hy]
    exact (add_zero _).symm

theorem leaderTick_tick {bg : Nat} (h : leaderTick d bg σ = some σ') : Tick d σ σ' := by
  unfold leaderTick at h
  split at h
  · rw [Option.some.injEq] at h
    subst h
    exact .of_update rfl rfl (List.append_nil _).symm fun e he => absurd he List.not_mem_nil
  · exact absurd h (by simp)

/-- The listener drains the pipe or ends. -/
theorem pipeReadable_cases {bg : Nat} (h : pipeReadable d bg σ = some σ') :
    d.Has (bg, 0) ∧ 0 < (σ (bg, 0)).pipe ∧ (σ (bg, 0)).listenerEnded = none
      ∧ (((σ (bg, 0)).pipe < pipeReadBuffer ∧ σ' = Function.update σ (bg, 0)
          { σ (bg, 0) with
            inbox := (σ (bg, 0)).inbox ++ [{ upPeers := [none], pMessage := .empty emptyMessage }]
            pipe := 0 })
        ∨ (pipeReadBuffer ≤ (σ (bg, 0)).pipe ∧ σ' = Function.update σ (bg, 0)
          { σ (bg, 0) with listenerEnded := some (σ (bg, 0)).inbox.length })) := by
  unfold pipeReadable at h
  dsimp only at h
  split at h
  · next hc =>
    refine ⟨hc.1, hc.2.1, hc.2.2, ?_⟩
    rw [Option.some.injEq] at h
    subst h
    by_cases hshort : (σ (bg, 0)).pipe < pipeReadBuffer
    · rw [if_pos hshort]
      exact Or.inl ⟨hshort, rfl⟩
    · rw [if_neg hshort]
      exact Or.inr ⟨Nat.not_lt.mp hshort, rfl⟩
  · exact absurd h (by simp)

/-- The listener of a leader has nothing to do with the other servers. -/
theorem pipeReadable_of_ne {bg : Nat} (h : pipeReadable d bg σ = some σ') {y : Peer}
    (hy : y ≠ (bg, 0)) : σ' y = σ y := by
  obtain ⟨-, -, -, ⟨-, rfl⟩ | ⟨-, rfl⟩⟩ := pipeReadable_cases h
  · exact Function.update_of_ne hy _ _
  · exact Function.update_of_ne hy _ _

theorem pipeReadable_tick {bg : Nat} (h : pipeReadable d bg σ = some σ') : Tick d σ σ' := by
  obtain ⟨-, -, -, ⟨-, rfl⟩ | ⟨-, rfl⟩⟩ := pipeReadable_cases h
  · refine .of_update rfl rfl rfl fun e he => ?_
    rw [List.mem_singleton.mp he]
  · exact .of_update rfl rfl (List.append_nil _).symm fun e he => absurd he List.not_mem_nil

/-- Every step is a call of the dispatcher or a step of a client. -/
theorem step_cases (h : Step d σ σ') :
    (∃ x e ω before, Dispatch d σ σ' x e ω before) ∨ Tick d σ σ' := by
  obtain ⟨l, hl⟩ := h
  cases l with
  | receive x i ω =>
    obtain ⟨e, before, hd, -⟩ := receive_dispatch hl
    exact Or.inl ⟨x, e, ω, before, hd⟩
  | retry x ω =>
    obtain ⟨e, before, hd, -⟩ := retry_dispatch hl
    exact Or.inl ⟨x, e, ω, before, hd⟩
  | clientTick x content => exact Or.inr (clientTick_tick hl)
  | leaderTick bg => exact Or.inr (leaderTick_tick hl)
  | pipeReadable bg => exact Or.inr (pipeReadable_tick hl)

/-! ## The clients do not touch the pass -/

theorem passLeft_update {bg : Nat} {node : Node} (hnode : node.passLeft = (σ (bg, 0)).passLeft) :
    (Function.update σ (bg, 0) node y).passLeft = (σ y).passLeft := by
  by_cases hy : y = (bg, 0)
  · subst hy
    rw [Function.update_self, hnode]
  · rw [Function.update_of_ne hy]

theorem clientTick_passLeft {content : List UInt8} (h : clientTick d x content σ = some σ') :
    (σ' y).passLeft = (σ y).passLeft := by
  unfold clientTick at h
  split at h
  · rw [← Option.some.inj h]
    rfl
  · exact absurd h (by simp)

theorem leaderTick_passLeft {bg : Nat} (h : leaderTick d bg σ = some σ') :
    (σ' y).passLeft = (σ y).passLeft := by
  unfold leaderTick at h
  split at h
  · rw [← Option.some.inj h]
    exact passLeft_update rfl
  · exact absurd h (by simp)

theorem pipeReadable_passLeft {bg : Nat} (h : pipeReadable d bg σ = some σ') :
    (σ' y).passLeft = (σ y).passLeft := by
  obtain ⟨-, -, -, ⟨-, rfl⟩ | ⟨-, rfl⟩⟩ := pipeReadable_cases h <;> exact passLeft_update rfl

/-! ## What `install` does -/

variable {node : Node} {o : Outcome}

@[simp] theorem install_sl_self : (install x node o σ x).sl = { o.state with sendQueue := [] } := by
  unfold install send
  rw [Function.update_self]

theorem install_sl_of_ne (h : y ≠ x) : (install x node o σ y).sl = (σ y).sl := by
  unfold install send
  rw [Function.update_of_ne h]

theorem install_crashed_of_ne (h : y ≠ x) : (install x node o σ y).crashed = (σ y).crashed := by
  unfold install send
  rw [Function.update_of_ne h]

@[simp] theorem install_ok_crashed {s : ConnManager} :
    (install x node (.ok s) σ x).crashed = false := by
  unfold install send
  rw [Function.update_self]

@[simp] theorem install_thrown_crashed {ex : Exception} {s : ConnManager} :
    (install x node (.thrown ex s) σ x).crashed = true := by
  unfold install send
  rw [Function.update_self]

@[simp] theorem install_passLeft_self : (install x node o σ x).passLeft = node.passLeft := by
  unfold install send
  rw [Function.update_self]

theorem install_passLeft_of_ne (h : y ≠ x) :
    (install x node o σ y).passLeft = (σ y).passLeft := by
  unfold install send
  rw [Function.update_of_ne h]

@[simp] theorem install_pipe_self : (install x node o σ x).pipe = node.pipe := by
  unfold install send
  rw [Function.update_self]

theorem install_pipe_of_ne (h : y ≠ x) : (install x node o σ y).pipe = (σ y).pipe := by
  unfold install send
  rw [Function.update_of_ne h]

@[simp] theorem install_listenerEnded_self :
    (install x node o σ x).listenerEnded = node.listenerEnded := by
  unfold install send
  rw [Function.update_self]

theorem install_listenerEnded_of_ne (h : y ≠ x) :
    (install x node o σ y).listenerEnded = (σ y).listenerEnded := by
  unfold install send
  rw [Function.update_of_ne h]

theorem install_inbox_self : (install x node o σ x).inbox
    = node.inbox ++ o.state.sendQueue.flatMap fun e => deliveries x e x := by
  unfold install send
  rw [Function.update_self]

theorem install_inbox_of_ne (h : y ≠ x) : (install x node o σ y).inbox
    = (σ y).inbox ++ o.state.sendQueue.flatMap fun e => deliveries x e y := by
  unfold install send
  rw [Function.update_of_ne h]

theorem pool_install_self :
    pool (install x node o σ) x
      = ↑node.inbox + ↑o.state.juggleQueue + sent x o.state.sendQueue x := by
  unfold pool
  rw [install_sl_self]
  unfold install send sent
  rw [Function.update_self, ← Multiset.coe_add, add_right_comm]

theorem pool_install_of_ne (h : y ≠ x) :
    pool (install x node o σ) y = pool σ y + sent x o.state.sendQueue y := by
  unfold pool
  rw [install_sl_of_ne h]
  unfold install send sent
  rw [Function.update_of_ne h, ← Multiset.coe_add, add_right_comm]

/-! ## Messages of one type -/

/-- The messages of one type. -/
def ofType (t : MessageType) (l : Multiset QueueElement) : Multiset QueueElement :=
  l.filter fun e => e.pMessage.msgType = t

variable {t : MessageType}

@[simp] theorem ofType_zero : ofType t 0 = 0 := rfl

@[simp] theorem ofType_add (l l' : Multiset QueueElement) :
    ofType t (l + l') = ofType t l + ofType t l' := Multiset.filter_add _ _ _

theorem ofType_cons_self {e : QueueElement} (h : e.pMessage.msgType = t)
    (l : Multiset QueueElement) : ofType t (e ::ₘ l) = e ::ₘ ofType t l :=
  Multiset.filter_cons_of_pos _ h

theorem ofType_cons_of_ne {e : QueueElement} (h : e.pMessage.msgType ≠ t)
    (l : Multiset QueueElement) : ofType t (e ::ₘ l) = ofType t l :=
  Multiset.filter_cons_of_neg _ h

theorem ofType_eq_zero {l : Multiset QueueElement} (h : ∀ e ∈ l, e.pMessage.msgType ≠ t) :
    ofType t l = 0 := Multiset.filter_eq_nil.mpr h

theorem mem_ofType {l : Multiset QueueElement} {e : QueueElement} :
    e ∈ ofType t l ↔ e ∈ l ∧ e.pMessage.msgType = t := Multiset.mem_filter

@[simp] theorem msgType_copy (m : Message) : m.copy.msgType = m.msgType := by
  cases m <;> rfl

/-- A copy keeps the type of a message. -/
theorem ofType_sent (l : List QueueElement) :
    ofType t (sent x l y) = sent x (l.filter fun e => e.pMessage.msgType = t) y := by
  induction l with
  | nil => rfl
  | cons e l ih =>
    have hcons : sent x (e :: l) y = sent x [e] y + sent x l y := sent_append [e] l
    rw [hcons, ofType_add, ih]
    by_cases he : e.pMessage.msgType = t
    · rw [List.filter_cons_of_pos (by simpa using he)]
      have hcons' : sent x (e :: l.filter fun e => e.pMessage.msgType = t) y
          = sent x [e] y + sent x (l.filter fun e => e.pMessage.msgType = t) y :=
        sent_append [e] _
      rw [hcons']
      congr 1
      refine Multiset.filter_eq_self.mpr fun e' he' => ?_
      rw [sent_singleton, Multiset.mem_coe] at he'
      rw [(mem_deliveries he').1, msgType_copy, he]
    · rw [List.filter_cons_of_neg (by simpa using he)]
      rw [ofType_eq_zero, zero_add]
      intro e' he'
      rw [sent_singleton, Multiset.mem_coe] at he'
      rw [(mem_deliveries he').1, msgType_copy]
      exact he

theorem ofType_sent_eq_zero {l : List QueueElement} (h : ∀ e ∈ l, e.pMessage.msgType ≠ t) :
    ofType t (sent x l y) = 0 := by
  rw [ofType_sent, List.filter_eq_nil_iff.mpr, sent_nil]
  intro e he
  simpa using h e he

theorem ofType_singleton_self {e : QueueElement} (h : e.pMessage.msgType = t) :
    ofType t {e} = {e} := ofType_cons_self h 0

end Cluster

end RCanopus
