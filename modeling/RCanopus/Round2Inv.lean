import RCanopus.Lib.LockStep
import RCanopus.Network
import RCanopus.Round2Spec

/-!
# The invariant of round 2 in one BG

The SLs of a BG replicate the Preprepares of their leader in lock step. `Round2Inv` relates a state
of all SLs to a state of `LockStep` and to the log, the Preprepares that the leader has issued: it
says what each SL has done, what it stores, and which messages of round 2 wait where.
-/

namespace RCanopus

/-! ## What an SL has done -/

def issuedOf (events : List Event) : List MessageRound2Preprepare :=
  events.filterMap fun
    | .issued p => some p
    | _ => none

def acceptedOf (events : List Event) : List MessageRound2Preprepare :=
  events.filterMap fun
    | .accepted p => some p
    | _ => none

def committedOf (events : List Event) : List MessageRound2Preprepare :=
  events.filterMap fun
    | .committed p => some p
    | _ => none

/-- The partial commits that were counted: the sender, and the view and sequence they count for. -/
def countedOf (events : List Event) :
    List (Option Peer × MessageRound2PartialCommit × UInt16 × UInt16) :=
  events.filterMap fun
    | .counted sender m view seq => some (sender, m, view, seq)
    | _ => none

/-- The full commits that were broadcast, with the value of the counter. -/
def sentFullCommitOf (events : List Event) : List (MessageRound2FullCommit × Nat) :=
  events.filterMap fun
    | .sentFullCommit m counter => some (m, counter)
    | _ => none

section

variable (events : List Event)

theorem issuedOf_append (l : List Event) :
    issuedOf (events ++ l) = issuedOf events ++ issuedOf l := List.filterMap_append ..

theorem acceptedOf_append (l : List Event) :
    acceptedOf (events ++ l) = acceptedOf events ++ acceptedOf l := List.filterMap_append ..

theorem committedOf_append (l : List Event) :
    committedOf (events ++ l) = committedOf events ++ committedOf l := List.filterMap_append ..

theorem countedOf_append (l : List Event) :
    countedOf (events ++ l) = countedOf events ++ countedOf l := List.filterMap_append ..

theorem sentFullCommitOf_append (l : List Event) :
    sentFullCommitOf (events ++ l) = sentFullCommitOf events ++ sentFullCommitOf l :=
  List.filterMap_append ..

/-- Events of round 3 do not matter for what depends on the others only. -/
theorem filterMap_round2 {α : Type*} (f : Event → Option α)
    (hf : ∀ ev, ev.isRound2 = false → f ev = none) :
    (events.filter Event.isRound2).filterMap f = events.filterMap f := by
  induction events with
  | nil => rfl
  | cons ev events ih =>
    by_cases hev : ev.isRound2 = true
    · rw [List.filter_cons_of_pos hev, List.filterMap_cons, List.filterMap_cons, ih]
    · rw [List.filter_cons_of_neg hev, List.filterMap_cons, hf ev (by simpa using hev), ih]

theorem issuedOf_round2 : issuedOf (events.filter Event.isRound2) = issuedOf events :=
  filterMap_round2 events _ fun ev h => by
    cases ev <;> first | rfl | exact absurd h (by simp [Event.isRound2])

theorem committedOf_round2 :
    committedOf (events.filter Event.isRound2) = committedOf events :=
  filterMap_round2 events _ fun ev h => by
    cases ev <;> first | rfl | exact absurd h (by simp [Event.isRound2])

theorem acceptedOf_round2 : acceptedOf (events.filter Event.isRound2) = acceptedOf events :=
  filterMap_round2 events _ fun ev h => by
    cases ev <;> first | rfl | exact absurd h (by simp [Event.isRound2])

theorem countedOf_round2 : countedOf (events.filter Event.isRound2) = countedOf events :=
  filterMap_round2 events _ fun ev h => by
    cases ev <;> first | rfl | exact absurd h (by simp [Event.isRound2])

theorem sentFullCommitOf_round2 :
    sentFullCommitOf (events.filter Event.isRound2) = sentFullCommitOf events :=
  filterMap_round2 events _ fun ev h => by
    cases ev <;> first | rfl | exact absurd h (by simp [Event.isRound2])

end

/-! ## Entries of the log -/

/-- The sequence number of entry `k`. -/
def seqOf (k : Nat) : UInt16 := UInt16.ofNat (k + 1)

/-- The collector that entry `k` names. -/
def collectorOf (log : List MessageRound2Preprepare) (k : Nat) : Nat :=
  (log[k]?.map fun p => p.collectorSLid.toNat).getD 0

/-- What the leader of `n` SLs has filled in. -/
structure EntryOk (n k : Nat) (p : MessageRound2Preprepare) : Prop where
  version : p.header.version = versionLatest
  view : p.view = 1
  seq : p.seq = seqOf k
  collector : p.collectorSLid.toNat < n

/-! ## Messages of round 2 in flight -/

/-- How messages from SL `j` to SL `i` of BG `b` arrive. -/
def source (b i j : Nat) : Option Peer := if j = i then none else some (b, j)

/-- The copy of a Preprepare that arrives at SL `i`. -/
def preprepareAt (b i : Nat) (p : MessageRound2Preprepare) : QueueElement where
  upPeers := [source b i 0]
  pMessage := .round2Preprepare p.copy

/-- The vote of SL `j` for entry `k`, as it arrives at SL `i`. -/
def voteAt (b i k j : Nat) : QueueElement where
  upPeers := [source b i j]
  pMessage := .round2PartialCommit (partialCommitMessage j 1 (seqOf k))

/-- The full commit of entry `k` by collector `c`, as it arrives at SL `i`. -/
def fullCommitAt (b i k c : Nat) : QueueElement where
  upPeers := [source b i c]
  pMessage := .round2FullCommit (fullCommitMessage c 1 (seqOf k))

@[simp] theorem msgType_preprepareAt (b i : Nat) (p : MessageRound2Preprepare) :
    (preprepareAt b i p).pMessage.msgType = .round2Preprepare := rfl

@[simp] theorem msgType_voteAt (b i k j : Nat) :
    (voteAt b i k j).pMessage.msgType = .round2PartialCommit := rfl

@[simp] theorem msgType_fullCommitAt (b i k c : Nat) :
    (fullCommitAt b i k c).pMessage.msgType = .round2FullCommit := rfl

/-- The SLs whose vote for the open entry was sent and not counted yet. -/
def openVotes (n : Nat) (a : LockStep.State) : Finset Nat :=
  (Finset.range n).filter fun j => a.closed < a.acc j ∧ j ∉ a.votes a.closed

/-! ## The invariant -/

/-- What was counted for the vote of SL `j` for entry `k` at SL `i`. -/
def countedVote (b i k j : Nat) : Option Peer × MessageRound2PartialCommit × UInt16 × UInt16 :=
  (source b i j, partialCommitMessage j 1 (seqOf k), 1, seqOf k)

/-- What SL `i` counted for entry `k`, which is nothing unless it is the collector. -/
def countedAt (b i : Nat) (a : LockStep.State) (log : List MessageRound2Preprepare) (k : Nat) :
    List (Option Peer × MessageRound2PartialCommit × UInt16 × UInt16) :=
  if collectorOf log k = i then (a.votes k).map (countedVote b i k) else []

/-- What SL `i` of BG `b` has done in round 2. -/
structure NodeTrace (b n i : Nat) (a : LockStep.State) (log : List MessageRound2Preprepare)
    (events : List Event) : Prop where
  issued : issuedOf events = if i = 0 then log else []
  accepted : acceptedOf events = (log.take (a.acc i)).map MessageRound2Preprepare.copy
  committed : committedOf events = (log.take (a.com i)).map MessageRound2Preprepare.copy
  counted : countedOf events = (List.range (a.closed + 1)).flatMap (countedAt b i a log)
  sent : sentFullCommitOf events
    = ((List.range a.closed).filter fun k => collectorOf log k = i).map fun k =>
        (fullCommitMessage i 1 (seqOf k), n)

/-- Where SL `i` is in the current round. -/
inductive Phase (n i : Nat) (a : LockStep.State) (log : List MessageRound2Preprepare)
    (v : Round2View) : Prop where
  /-- It waits for the next Preprepare; the leader has no status when nothing is under way. -/
  | ready (hacc : a.acc i = a.com i) (hstored : v.stored = none)
    (hstatus : v.status = none ∨ v.status = some .waitingForPreprepare)
    (hleader : i = 0 → (v.status = none ↔ a.com 0 = log.length))
  /-- It collects the votes, or it waits for the full commit. -/
  | active (p : MessageRound2Preprepare) (hp : log[a.com i]? = some p)
    (hacc : a.acc i = a.com i + 1) (hstored : v.stored = some p.copy)
    (hcollector : v.isCollector = (p.collectorSLid.toNat == i))
    (hstatus : v.status = some
      (if p.collectorSLid.toNat = i ∧ a.com i = a.closed then
        .collecting n p.copy (a.votes a.closed).length
      else .waitingForFullcommit p.copy))
  /-- A check failed in the middle of a commit, and the SL waits forever. -/
  | stuck (p : MessageRound2Preprepare) (k : Nat) (hk : a.com i = k + 1) (hp : log[k]? = some p)
    (hacc : a.acc i = a.com i) (hstatus : v.status = some (.committed p.copy))

/-- The state of SL `i`, as long as it runs. -/
structure NodeLive (n i : Nat) (a : LockStep.State) (log : List MessageRound2Preprepare)
    (v : Round2View) : Prop where
  nextView : v.nextView = 1
  nextSeq : v.nextSeq = seqOf (if i = 0 then log.length else a.acc i)
  collectorRr : v.collectorRr.toNat < n
  phase : Phase n i a log v

/-- What an SL did before does not matter for what it does next. -/
theorem NodeLive.of_eq {n i : Nat} {a : LockStep.State} {log : List MessageRound2Preprepare}
    {v v' : Round2View} (h : NodeLive n i a log v) (hv : { v with trace := v'.trace } = v') :
    NodeLive n i a log v' := by
  rw [← hv]
  obtain ⟨hview, hseq, hcollector, hphase⟩ := h
  refine ⟨hview, hseq, hcollector, ?_⟩
  cases hphase with
  | ready hacc hstored hstatus hleader => exact .ready hacc hstored hstatus hleader
  | active p hp hacc hstored hcollector hstatus =>
    exact .active p hp hacc hstored hcollector hstatus
  | stuck p k hk hp hacc hstatus => exact .stuck p k hk hp hacc hstatus

open Cluster in
/-- The messages of round 2 that wait at SL `i`. Only the leader gets empty messages. -/
structure InFlight (b n i : Nat) (a : LockStep.State) (log : List MessageRound2Preprepare)
    (l : Multiset QueueElement) : Prop where
  preprepare : ofType .round2Preprepare l = ↑((log.drop (a.acc i)).map (preprepareAt b i))
  partialCommit : ofType .round2PartialCommit l
    = if collectorOf log a.closed = i then (openVotes n a).val.map (voteAt b i a.closed) else 0
  fullCommit : ofType .round2FullCommit l
    = if a.com i < a.closed then {fullCommitAt b i (a.com i) (collectorOf log (a.com i))} else 0
  empty : ∀ e ∈ ofType .empty l, i = 0 ∧ e.pMessage = .empty emptyMessage

open Cluster in
/-- Only the messages of round 2 matter. -/
theorem InFlight.congr {b n i : Nat} {a : LockStep.State} {log : List MessageRound2Preprepare}
    {l l' : Multiset QueueElement} (h : InFlight b n i a log l)
    (hl : ∀ t : MessageType, t.isRound2 = true → ofType t l' = ofType t l) :
    InFlight b n i a log l' where
  preprepare := (hl _ rfl).trans h.preprepare
  partialCommit := (hl _ rfl).trans h.partialCommit
  fullCommit := (hl _ rfl).trans h.fullCommit
  empty := fun e he => h.empty e (hl .empty rfl ▸ he)

/-- What relates the log to how far the SLs are. -/
structure LogOk (n : Nat) (a : LockStep.State) (log : List MessageRound2Preprepare) : Prop where
  lock : LockStep.Inv n a
  len : a.len = log.length
  /-- The sequence numbers do not wrap, because the leader accepts nothing after 65534 entries. -/
  short : a.acc 0 < 65535
  /-- The collector counts votes only for what it has accepted. -/
  collected : a.votes a.closed ≠ [] → a.closed < a.acc (collectorOf log a.closed)
  entries : ∀ k p, log[k]? = some p → EntryOk n k p

open Cluster in
/-- **The invariant of round 2** in BG `b`. -/
structure Round2Inv (d : Deployment) (σ : Cluster) (b : Nat) (a : LockStep.State)
    (log : List MessageRound2Preprepare) : Prop extends LogOk (d.conf.numSL b) a log where
  trace : ∀ i < d.conf.numSL b,
    NodeTrace b (d.conf.numSL b) i a log (σ (b, i)).sl.round2View.trace.events
  live : ∀ i < d.conf.numSL b, (σ (b, i)).crashed = false →
    NodeLive (d.conf.numSL b) i a log (σ (b, i)).sl.round2View
  versions : ∀ i < d.conf.numSL b, (σ (b, i)).crashed = false →
    ∀ p ∈ (σ (b, i)).sl.pLeaderRound2PendingPreprepareRaw, p.header.version = versionLatest
  sendQueue : ∀ i < d.conf.numSL b, (σ (b, i)).sl.sendQueue = []
  flight : ∀ i < d.conf.numSL b, InFlight b (d.conf.numSL b) i a log (pool σ (b, i))

/-- BG `b` has the invariant, for some progress of its SLs. -/
def Round2Ok (d : Deployment) (σ : Cluster) : Prop :=
  ∀ b, 0 < d.conf.numSL b → ∃ a log, Round2Inv d σ b a log

/-! ## One SL in the middle of a step -/

/-- An element goes to SLs of BG `b` only. -/
def LocalTo (b : Nat) (e : QueueElement) : Prop :=
  ∀ p ∈ e.upPeers, p = none ∨ ∃ sl, p = some (b, sl)

open Cluster in
/--
The invariant while SL `i` is in the dispatcher: its view is `v`, and `rest` is its inbox, together
with the element that is being dispatched until that is done.
-/
structure Staged (d : Deployment) (σ : Cluster) (b i : Nat) (rest : Multiset QueueElement)
    (a : LockStep.State) (log : List MessageRound2Preprepare) (v : Round2View) : Prop
    extends LogOk (d.conf.numSL b) a log where
  trace_self : NodeTrace b (d.conf.numSL b) i a log v.trace.events
  live_self : NodeLive (d.conf.numSL b) i a log v
  flight_self : InFlight b (d.conf.numSL b) i a log
    (rest + ↑v.trace.juggled + sent (b, i) v.trace.sends (b, i))
  trace_others : ∀ j < d.conf.numSL b, j ≠ i →
    NodeTrace b (d.conf.numSL b) j a log (σ (b, j)).sl.round2View.trace.events
  live_others : ∀ j < d.conf.numSL b, j ≠ i → (σ (b, j)).crashed = false →
    NodeLive (d.conf.numSL b) j a log (σ (b, j)).sl.round2View
  flight_others : ∀ j < d.conf.numSL b, j ≠ i → InFlight b (d.conf.numSL b) j a log
    (pool σ (b, j) + sent (b, i) v.trace.sends (b, j))
  sends_local : ∀ e ∈ v.trace.sends, LocalTo b e

end RCanopus
