import RCanopus.Baseline.Round3Spec
import RCanopus.Proposals
import RCanopus.Round3Frame
import RCanopus.Round3Issue

/-!
# What one cycle sees

Different cycles do not touch each other in round 3. `cycleView c` is the part of the state of an SL
that belongs to cycle `c`: its committed result, its entries in the maps, what was noted about it,
and the messages about it. A call of the dispatcher leaves the views of all other cycles alone.
-/

namespace RCanopus.Baseline

/-! ## Aboutness -/

/-- The cycle that a message of round 3 is about. -/
def Message.round3Cycle : Message → Option UInt16
  | .common (.round3FetchRequest m) => some m.cycle
  | .common (.round3FetchResponse m) => some m.cycle
  | .common _ => none
  | .round3Preprepare m => some m.cycle
  | .round3PartialCommit m => some m.cycle
  | .round3FullCommit m => some m.cycle

/-- The cycle that an event of round 3 is about. -/
def Event.cycle : Event → Option UInt16
  | .guardFailed => none
  | .answered _ c _ _ => some c
  | .fetched c _ => some c
  | .committedConnectivity c => some c
  | .sentPreprepare m => some m.cycle
  | .sentPartialCommit _ m => some m.cycle
  | .countedPartialCommit m => some m.cycle
  | .sentFullCommit m => some m.cycle
  | .round3Committed c => some c

@[simp] theorem Message.round3Cycle_copy (m : Message) : m.copy.round3Cycle = m.round3Cycle := by
  cases m with
  | common m => cases m <;> rfl
  | _ => rfl

theorem Message.round3Cycle_common {m : RCanopus.Message} (h : m.isRound3 = false) :
    (Message.common m).round3Cycle = none := by
  cases m <;> first | rfl | exact absurd h (by simp [RCanopus.Message.isRound3])

/-! ## The view -/

structure CycleView where
  /-- The committed Preprepares about the cycle. -/
  committed : List MessageRound2Preprepare
  status : Option CycleStatus
  pending : Option (List (UInt16 × UInt16))
  stored : Bool
  events : List Event
  sends : List QueueElement
  juggled : List QueueElement

def ConnManager.cycleView (c : UInt16) (s : ConnManager) : CycleView where
  committed := (committedOf s.common.history).filter fun p => p.cycle = c
  status := s.mapRound3Status c
  pending := s.mapRound3PendingFetchRequests c
  stored := c ∈ s.pStorage
  events := s.history.filter fun ev => ev.cycle = some c
  sends := s.sendQueue.filter fun e => e.pMessage.round3Cycle = some c
  juggled := s.juggleQueue.filter fun e => e.pMessage.round3Cycle = some c

namespace CycleView

variable (v : CycleView)

def send (e : QueueElement) : CycleView := { v with sends := v.sends ++ [e] }

def juggle (e : QueueElement) : CycleView := { v with juggled := v.juggled ++ [e] }

def notes (evs : List Event) : CycleView := { v with events := v.events ++ evs }

def setStatus (status : CycleStatus) : CycleView := { v with status := some status }

/-- The cycle is done. -/
def store : CycleView := { v with status := none, stored := true }

end CycleView

section Updates

variable {c c' : UInt16} {s : ConnManager} {e : QueueElement}

theorem cycleView_enqueue (h : e.pMessage.round3Cycle = some c) :
    (s.enqueue e).cycleView c = (s.cycleView c).send e := by
  unfold ConnManager.cycleView ConnManager.enqueue CycleView.send
  rw [List.filter_append, List.filter_singleton, decide_eq_true h]
  rfl

theorem cycleView_enqueue_of_ne (h : e.pMessage.round3Cycle ≠ some c) :
    (s.enqueue e).cycleView c = s.cycleView c := by
  unfold ConnManager.cycleView ConnManager.enqueue
  rw [List.filter_append, List.filter_singleton, decide_eq_false h]
  simp

theorem cycleView_juggle (h : e.pMessage.round3Cycle = some c) :
    (s.juggle e).cycleView c = (s.cycleView c).juggle e := by
  unfold ConnManager.cycleView ConnManager.juggle CycleView.juggle
  rw [List.filter_append, List.filter_singleton, decide_eq_true h]
  rfl

theorem cycleView_juggle_of_ne (h : e.pMessage.round3Cycle ≠ some c) :
    (s.juggle e).cycleView c = s.cycleView c := by
  unfold ConnManager.cycleView ConnManager.juggle
  rw [List.filter_append, List.filter_singleton, decide_eq_false h]
  simp

theorem cycleView_notes {evs : List Event} (h : ∀ ev ∈ evs, ev.cycle = some c) :
    ({ s with history := s.history ++ evs } : ConnManager).cycleView c
      = (s.cycleView c).notes evs := by
  unfold ConnManager.cycleView CycleView.notes
  rw [List.filter_append, List.filter_eq_self.mpr fun ev hev => decide_eq_true (h ev hev)]

theorem cycleView_notes_of_ne {evs : List Event} (h : ∀ ev ∈ evs, ev.cycle ≠ some c) :
    ({ s with history := s.history ++ evs } : ConnManager).cycleView c = s.cycleView c := by
  unfold ConnManager.cycleView
  rw [List.filter_append,
    (List.filter_eq_nil_iff (l := evs)).mpr fun ev hev => by simpa using h ev hev]
  simp

theorem cycleView_note {ev : Event} (h : ev.cycle = some c) :
    (s.note ev).cycleView c = (s.cycleView c).notes [ev] :=
  cycleView_notes fun ev' hev => by rw [List.mem_singleton.mp hev, h]

theorem cycleView_note_of_ne {ev : Event} (h : ev.cycle ≠ some c) :
    (s.note ev).cycleView c = s.cycleView c :=
  cycleView_notes_of_ne fun ev' hev => by rwa [List.mem_singleton.mp hev]

theorem cycleView_setStatus {status : CycleStatus} :
    (s.setStatus c status).cycleView c = (s.cycleView c).setStatus status := by
  unfold ConnManager.cycleView ConnManager.setStatus CycleView.setStatus
  dsimp only
  rw [Function.update_self]

theorem cycleView_setStatus_of_ne {status : CycleStatus} (h : c' ≠ c) :
    (s.setStatus c' status).cycleView c = s.cycleView c := by
  unfold ConnManager.cycleView ConnManager.setStatus
  dsimp only
  rw [Function.update_of_ne h.symm]

theorem cycleView_setPending {requests : List (UInt16 × UInt16)} :
    (s.setPending c requests).cycleView c
      = { s.cycleView c with pending := some requests } := by
  unfold ConnManager.cycleView ConnManager.setPending
  dsimp only
  rw [Function.update_self]

theorem cycleView_setPending_of_ne {requests : List (UInt16 × UInt16)} (h : c' ≠ c) :
    (s.setPending c' requests).cycleView c = s.cycleView c := by
  unfold ConnManager.cycleView ConnManager.setPending
  dsimp only
  rw [Function.update_of_ne h.symm]

theorem cycleView_afterFullCommit3 :
    (afterFullCommit3 c s).cycleView c = (s.cycleView c).store.notes [.round3Committed c] := by
  unfold afterFullCommit3 ConnManager.cycleView CycleView.store CycleView.notes
  dsimp only
  rw [Function.update_self, List.filter_append]
  simp [Event.cycle]

theorem cycleView_afterFullCommit3_of_ne (h : c' ≠ c) :
    (afterFullCommit3 c' s).cycleView c = s.cycleView c := by
  unfold afterFullCommit3 ConnManager.cycleView
  dsimp only
  rw [Function.update_of_ne h.symm, List.filter_append]
  simp [Event.cycle, h, h.symm]

theorem cycleView_noteCommitted_of_ne {p : MessageRound2Preprepare} (h : p.cycle ≠ c) :
    (noteCommitted p s).cycleView c = s.cycleView c := by
  unfold noteCommitted ConnManager.cycleView RCanopus.ConnManager.note
  dsimp only
  rw [committedOf_append]
  simp [committedOf, h]

theorem cycleView_noteCommitted {p : MessageRound2Preprepare} (h : p.cycle = c) :
    (noteCommitted p s).cycleView c
      = { s.cycleView c with committed := (s.cycleView c).committed ++ [p] } := by
  unfold noteCommitted ConnManager.cycleView RCanopus.ConnManager.note
  dsimp only
  rw [committedOf_append]
  simp [committedOf, h]

end Updates

/-! ## What both variants share -/

section Shared

variable {env : Env} {ω : Choice} {c : UInt16} {s : ConnManager}

theorem shared_state (f : RCanopus.ConnManager → RCanopus.Outcome) (s : ConnManager) :
    (shared f s).state = s.absorb (f s.round2).state := by
  unfold shared
  cases f s.round2 <;> rfl

theorem filter_common {l : List RCanopus.QueueElement}
    (h : ∀ e ∈ l, e.pMessage.isRound3 = false) :
    (l.map QueueElement.common).filter (fun e => e.pMessage.round3Cycle = some c) = [] := by
  refine List.filter_eq_nil_iff.mpr fun e he => ?_
  obtain ⟨e', he', rfl⟩ := List.mem_map.mp he
  rw [show (QueueElement.common e').pMessage.round3Cycle = none
    from Message.round3Cycle_common (h e' he')]
  simp

/-- What is sent, juggled and noted by a function of round 2. -/
structure Round2Only (s₀ s : RCanopus.ConnManager) : Prop where
  juggled : ∀ e ∈ s.juggleQueue, e.pMessage.isRound3 = false
  sends : ∀ e ∈ s.sendQueue, e.pMessage.isRound3 = false
  committed : committedOf s.history = committedOf s₀.history

theorem cycleView_absorb {s' : RCanopus.ConnManager} (h : Round2Only s.common s') :
    (s.absorb s').cycleView c = s.cycleView c := by
  unfold ConnManager.cycleView ConnManager.absorb
  dsimp only
  rw [List.filter_append, List.filter_append, filter_common h.juggled, filter_common h.sends,
    h.committed, List.append_nil, List.append_nil]

theorem cycleView_shared {f : RCanopus.ConnManager → RCanopus.Outcome}
    (h : Round2Only s.common (f s.round2).state) :
    (shared f s).state.cycleView c = s.cycleView c := by
  rw [shared_state]
  exact cycleView_absorb h

end Shared

/-! ### Starting a round -/

section Start

variable {env : Env} {ω : RCanopus.Choice} {s₀ s : RCanopus.ConnManager}

/-- Nothing is in the queues when a function of round 2 is called. -/
theorem round2Only_round2 (s : ConnManager) : Round2Only s.common s.round2 where
  juggled := fun _ he => absurd he List.not_mem_nil
  sends := fun _ he => absurd he List.not_mem_nil
  committed := rfl

theorem Round2Only.guardFailed (h : Round2Only s₀ s) : Round2Only s₀ (s.note .guardFailed) where
  juggled := h.juggled
  sends := h.sends
  committed := by
    show committedOf (s.history ++ _) = _
    rw [committedOf_append]
    exact (List.append_nil _).trans h.committed

theorem Round2Only.congr {s' : RCanopus.ConnManager} (h : Round2Only s₀ s)
    (hjuggle : s'.juggleQueue = s.juggleQueue) (hsend : s'.sendQueue = s.sendQueue)
    (hhistory : s'.history = s.history) : Round2Only s₀ s' where
  juggled := hjuggle ▸ h.juggled
  sends := hsend ▸ h.sends
  committed := hhistory ▸ h.committed

theorem Round2Only.sendPreprepare (h : Round2Only s₀ s) (p : MessageRound2Preprepare) :
    Round2Only s₀ (sendPreprepare env p s).state where
  juggled := h.juggled
  sends := fun e he => by
    rcases List.mem_append.mp he with he | he
    · exact h.sends e he
    · rw [List.mem_singleton.mp he]
      rfl
  committed := by
    show committedOf (s.history ++ _) = _
    rw [committedOf_append]
    exact (List.append_nil _).trans h.committed

theorem Round2Only.startRound2IfPossible (h : Round2Only s₀ s) (hleader : env.conf.sLid = 0) :
    Round2Only s₀ (startRound2IfPossible env ω s).state := by
  obtain hsame | ⟨-, hissue⟩ := startRound2IfPossible_cases (ω := ω) (s := s) hleader
  · rw [hsame]
    exact h
  · rw [hissue]
    unfold issueNext
    split
    · unfold RCanopus.debugThrow
      split
      · refine Round2Only.sendPreprepare ?_ _
        exact h.congr rfl rfl rfl
      · split
        · exact h.guardFailed.congr rfl rfl rfl
        · refine Round2Only.sendPreprepare ?_ _
          exact h.guardFailed.congr rfl rfl rfl
    · unfold sendClientPreprepare
      refine Round2Only.sendPreprepare ?_ _
      exact h.congr rfl rfl rfl

theorem Round2Only.dispatcherRound2Request (h : Round2Only s₀ s) {e : RCanopus.QueueElement}
    {m : MessageRound2Request} (he : e.pMessage = .round2Request m) :
    Round2Only s₀ (dispatcherRound2Request env ω e m s).state := by
  have henqueue : ∀ s, Round2Only s₀ s → Round2Only s₀
      (s.enqueue e) := fun s hs =>
    { juggled := hs.juggled
      sends := fun e' he' => by
        rcases List.mem_append.mp he' with he' | he'
        · exact hs.sends e' he'
        · rw [List.mem_singleton.mp he', he]
          rfl
      committed := hs.committed }
  unfold RCanopus.dispatcherRound2Request
  split
  · unfold RCanopus.debugThrow
    split
    · exact henqueue s h
    · split
      · exact h.guardFailed
      · exact henqueue _ h.guardFailed
  · next hleader =>
    unfold RCanopus.debugThrowElseReturnVoid
    split
    · refine Round2Only.startRound2IfPossible ?_ (by simpa [Config.isRound2Leader] using hleader)
      exact h.congr rfl rfl rfl
    · split
      · exact h.guardFailed
      · exact h.guardFailed

end Start

/-- The common end of the handlers leaves all cycles alone. -/
theorem cycleView_spawnRound2 {env : Env} {ω : Choice} {c : UInt16} {s : ConnManager} :
    (spawnRound2 env ω s).state.cycleView c = s.cycleView c := by
  refine cycleView_shared ?_
  have hround2 := round2Only_round2 s
  unfold RCanopus.spawnRound2
  split
  · next hleader =>
    exact hround2.startRound2IfPossible (by simpa [Config.isRound2Leader] using hleader)
  · exact hround2

end RCanopus.Baseline
