import RCanopus.JuggleQueue

/-!
# No deadlock

When nothing is on its way and no pass is running, every message that an SL still juggles waits for
a message that some other SL has yet to send. There is no such message: round 2 of every BG has
committed all that was issued, and every cycle that all BGs have entered is closed.
-/

namespace RCanopus

open Cluster Exchange

variable {d : Deployment} {σ : Cluster} {b i : Nat} {y : Peer} {c : UInt16} {e : QueueElement}
  {a : LockStep.State} {log : List MessageRound2Preprepare} {k : FetchKind} {A : Nat}
  {token : FetchKind → Nat → Nat → UInt16 → Token}

/-- Nothing is in any queue or on any link, and the main loops wait for the next message. -/
def Quiescent (d : Deployment) (σ : Cluster) : Prop :=
  ∀ y, d.Has y → (σ y).inbox = [] ∧ (σ y).passLeft = 0

/-- The sequence counter of the leader of a BG has wrapped. It starts with 1. -/
def Wrapped (σ : Cluster) (b : Nat) : Prop := 2 ^ 16 ≤ (issued σ b).length + 1

/-- What is left in a quiescent state waits. -/
theorem Quiescent.waits (hq : Quiescent d σ) (hjuggle : JuggleOk σ) (hy : d.Has y)
    (halive : (σ y).crashed = false) (he : e ∈ pool σ y) : Waits (σ y).sl e.pMessage := by
  obtain ⟨hinbox, hleft⟩ := hq y hy
  have hmem : e ∈ (σ y).sl.juggleQueue := by
    unfold pool at he
    rw [hinbox] at he
    simpa using he
  refine (hjuggle y halive).waits hinbox e ?_
  rwa [hleft]

/-! ## Round 2 -/

section Round2

variable (hinv : Round2Inv d σ b a log)
  (hwaits : ∀ i < d.conf.numSL b, ∀ e ∈ pool σ (b, i), Waits (σ (b, i)).sl e.pMessage)
  (halive : ∀ i < d.conf.numSL b, (σ (b, i)).crashed = false)
  (hunstuck : ∀ i < d.conf.numSL b, Unstuck (b, i) (σ (b, i)).sl)
  (hwrap : log.length < 65535)

include hinv hwaits

/-- No full commit is on its way. -/
theorem com_eq_closed (hi : i < d.conf.numSL b) : a.com i = a.closed := by
  refine Nat.le_antisymm (hinv.lock.com_le_closed i hi) (Nat.not_lt.mp fun hlt => ?_)
  have hflight := (hinv.flight i hi).fullCommit
  rw [if_pos hlt] at hflight
  have hmem : fullCommitAt b i (a.com i) (collectorOf log (a.com i))
      ∈ ofType .round2FullCommit (pool σ (b, i)) := by
    rw [hflight]
    exact Multiset.mem_singleton_self _
  exact hwaits i hi _ (mem_ofType.mp hmem).1

include halive hunstuck hwrap

/-- Every SL has accepted what was issued. -/
theorem acc_eq_length (hi : i < d.conf.numSL b) : a.acc i = log.length := by
  refine Nat.le_antisymm (hinv.len ▸ hinv.lock.acc_le_len i hi) (Nat.not_lt.mp fun hlt => ?_)
  have hcom := com_eq_closed hinv hwaits hi
  have hlen := hinv.lock.len_le_closed
  rw [hinv.len] at hlen
  have hclosed := hinv.lock.closed_le_acc i hi
  have hacc : a.acc i = a.closed := by omega
  obtain ⟨p, hp⟩ : ∃ p, log[a.acc i]? = some p := ⟨_, List.getElem?_eq_getElem hlt⟩
  have hmem : preprepareAt b i p ∈ ofType .round2Preprepare (pool σ (b, i)) := by
    rw [(hinv.flight i hi).preprepare, Multiset.mem_coe]
    refine List.mem_map_of_mem ?_
    rw [List.drop_eq_getElem_cons hlt]
    rw [List.getElem?_eq_getElem hlt, Option.some.injEq] at hp
    rw [hp]
    exact List.mem_cons_self
  have hlive := hinv.live i hi (halive i hi)
  have hentry := hinv.entries _ _ hp
  cases hlive.phase with
  | active q hq hidle hstored hcollector hstatus => omega
  | stuck q m hm hq hidle hstatus =>
    exact (hunstuck i hi).running _ hstatus rfl
  | ready hidle hstored hstatus hleader =>
    have hstatus : (σ (b, i)).sl.pRound2CurrentStatus = none
        ∨ (σ (b, i)).sl.pRound2CurrentStatus = some .waitingForPreprepare := hstatus
    rcases hwaits i hi _ (mem_ofType.mp hmem).1 with hwait | hearly
    · refine hwait ?_
      rcases hstatus with hstatus | hstatus
      · rw [hstatus, Option.getD_none]
        rfl
      · rw [hstatus, Option.getD_some]
        rfl
    · -- the next number is not later than that of the Preprepare
      have hearly : preprepareTooEarly (σ (b, i)).sl p.copy = true := hearly
      have hview : p.copy.view = (σ (b, i)).sl.round2View.nextView :=
        hentry.view.trans hlive.nextView.symm
      have hs : (σ (b, i)).sl.At (σ (b, i)).sl.round2View :=
        ⟨rfl, hinv.versions i hi (halive i hi)⟩
      rw [preprepareTooEarly_at hs hview, hlive.nextSeq, decide_eq_true_eq] at hearly
      have hseq : p.copy.seq = seqOf (a.acc i) := hentry.seq
      rw [hseq] at hearly
      split at hearly
      · exact UInt16.lt_irrefl _ (UInt16.lt_trans hearly (seqOf_lt hlt hwrap))
      · exact UInt16.lt_irrefl _ hearly

/-- **Round 2 has come to an end.** -/
theorem com_eq_length (hi : i < d.conf.numSL b) : a.com i = log.length := by
  have hcom := com_eq_closed hinv hwaits hi
  have hacc := acc_eq_length hinv hwaits halive hunstuck hwrap hi
  by_contra hne
  have hlen := hinv.lock.acc_le_com i hi
  have hopen : a.closed + 1 = log.length := by
    have := hinv.lock.com_le_acc i hi
    omega
  -- somebody's vote was not counted, and it is at the collector
  have hlt : a.closed < log.length := by omega
  obtain ⟨p, hp⟩ : ∃ p, log[a.closed]? = some p := ⟨_, List.getElem?_eq_getElem hlt⟩
  obtain ⟨j, hj, hnew⟩ : ∃ j < d.conf.numSL b, j ∉ a.votes a.closed := by
    by_contra hall
    simp only [not_exists, not_and, not_not] at hall
    have hsub : Finset.range (d.conf.numSL b) ⊆ (a.votes a.closed).toFinset := fun j hj =>
      List.mem_toFinset.mpr (hall j (Finset.mem_range.mp hj))
    have hcard := (Finset.card_le_card hsub).trans (List.toFinset_card_le _)
    rw [Finset.card_range] at hcard
    exact absurd hinv.lock.votes_open (Nat.not_lt.mpr hcard)
  have hvote : j ∈ openVotes (d.conf.numSL b) a := by
    refine Finset.mem_filter.mpr ⟨Finset.mem_range.mpr hj, ?_, hnew⟩
    rw [acc_eq_length hinv hwaits halive hunstuck hwrap hj]
    exact hlt
  have hentry := hinv.entries _ _ hp
  have hl : p.collectorSLid.toNat < d.conf.numSL b := hentry.collector
  generalize hcol : p.collectorSLid.toNat = l at hl
  have hcollector : collectorOf log a.closed = l := by rw [collectorOf_eq hp, hcol]
  have hmem : voteAt b l a.closed j ∈ ofType .round2PartialCommit (pool σ (b, l)) := by
    rw [(hinv.flight l hl).partialCommit, if_pos hcollector]
    exact Multiset.mem_map_of_mem _ hvote
  have hcoml := com_eq_closed hinv hwaits hl
  have haccl := acc_eq_length hinv hwaits halive hunstuck hwrap hl
  cases (hinv.live l hl (halive l hl)).phase with
  | ready hidle => omega
  | stuck q m hm hq hidle => omega
  | active q hq hidle hstored hisCollector hstatus =>
    rw [hcoml, hp, Option.some.injEq] at hq
    subst hq
    rw [if_pos ⟨hcol, hcoml⟩] at hstatus
    have hstatus : (σ (b, l)).sl.pRound2CurrentStatus
        = some (.collecting _ p.copy (a.votes a.closed).length) := hstatus
    have hisCollector : (σ (b, l)).sl.round2IsCollector = (p.collectorSLid.toNat == l) :=
      hisCollector
    rcases hwaits l hl _ (mem_ofType.mp hmem).1 with hwait | hwait
    · rw [hisCollector, hcol, beq_self_eq_true] at hwait
      exact absurd hwait (by simp)
    · rcases hwait _ hstatus with hstate | hview | hseq
      · exact absurd hstate (by simp [CycleStatus.collecting, CycleStatus.active])
      · have hview : p.view < 1 := hview
        rw [hentry.view] at hview
        exact UInt16.lt_irrefl _ hview
      · have hseq : p.seq < seqOf a.closed := hseq
        rw [hentry.seq] at hseq
        exact UInt16.lt_irrefl _ hseq

end Round2

/-- Round 2 of a BG at its end. -/
structure Ended (d : Deployment) (σ : Cluster) (b : Nat) : Prop where
  committed : ∀ i < d.conf.numSL b, entries σ (b, i) = (issued σ b).map entryOf
  preprepares : ∀ i < d.conf.numSL b, ∀ e ∈ pool σ (b, i), e.pMessage.msgType ≠ .round2Preprepare
  queue : (σ (b, 0)).sl.pLeaderRound2PendingPreprepareRaw = []
  idle : (σ (b, 0)).sl.pRound2CurrentStatus = none

theorem ended_of_waits {a : LockStep.State} {log : List MessageRound2Preprepare}
    (hinv : Round2Inv d σ b a log) (hn : 0 < d.conf.numSL b)
    (hwaits : ∀ i < d.conf.numSL b, ∀ e ∈ pool σ (b, i), Waits (σ (b, i)).sl e.pMessage)
    (halive : ∀ i < d.conf.numSL b, (σ (b, i)).crashed = false)
    (hunstuck : ∀ i < d.conf.numSL b, Unstuck (b, i) (σ (b, i)).sl)
    (hwrap : ¬ Wrapped σ b) : Ended d σ b := by
  have hlog := issued_eq hinv hn
  have hlt : log.length < 65535 := by
    unfold Wrapped at hwrap
    rw [hlog] at hwrap
    omega
  have hcom : ∀ i < d.conf.numSL b, a.com i = log.length := fun i hi =>
    com_eq_length hinv hwaits halive hunstuck hlt hi
  have hidle : (σ (b, 0)).sl.pRound2CurrentStatus = none := by
    have hacc := hinv.lock.acc_le_len 0 hn
    rw [hinv.len, ← hcom 0 hn] at hacc
    cases (hinv.live 0 hn (halive 0 hn)).phase with
    | ready hidle hstored hstatus hleader => exact (hleader rfl).mpr (hcom 0 hn)
    | active p hp hidle => omega
    | stuck p m hm hp hidle hstatus => exact absurd rfl ((hunstuck 0 hn).running _ hstatus)
  refine ⟨fun i hi => ?_, fun i hi e he ht => ?_, (hunstuck 0 hn).idle rfl hidle, hidle⟩
  · unfold entries
    rw [committed_eq hinv hi, hcom i hi, List.take_length, hlog, List.map_map]
    exact List.map_congr_left fun p _ => entryOf_copy p
  · have hmem : e ∈ ofType .round2Preprepare (pool σ (b, i)) := mem_ofType.mpr ⟨he, ht⟩
    have hacc := hinv.lock.com_le_acc i hi
    rw [(hinv.flight i hi).preprepare, List.drop_eq_nil_of_le (hcom i hi ▸ hacc)] at hmem
    exact absurd hmem (Multiset.notMem_zero e)

/-! ## Round 3 -/

namespace Exchange

/-- Everything issued is committed, and no request whose answer is there is under way. -/
structure Drained (L : Layout) (x : Exchange) : Prop where
  committed : ∀ b < L.numBG, ∀ i < L.numSL b, x.committed (b, i) = x.log b
  queue : ∀ b < L.numBG, x.queue b = []
  envoys : ∀ b < L.numBG, ∀ c, ∃ i < L.numSL b, L.envoy b c = some i
  tokens : ∀ k, ∀ b < L.numBG, ∀ A < L.numBG, ∀ c, k.trigger c ∈ x.log A →
    x.token k b A c = .idle ∨ x.token k b A c = .done

variable {L : Layout} {x : Exchange}

/-- A trigger that all BGs have committed leads to answers of all. -/
theorem Drained.all_done (hd : Drained L x) (h : x.Inv L) (hN : 2 ≤ L.numBG)
    (htrigger : ∀ A < L.numBG, k.trigger c ∈ x.log A) (hb : b < L.numBG) :
    L.AllOthers b fun A => x.token k b A c = .done := by
  refine ⟨hN, fun A hA hne => (hd.tokens k b hb A hA c (htrigger A hA)).resolve_left ?_⟩
  obtain ⟨i, hi, henvoy⟩ := hd.envoys b hb c
  refine (h.asked k b A c).mpr ⟨hb, hA, hne, i, hi, henvoy, ?_⟩
  rw [hd.committed b hb i hi]
  exact htrigger b hb

/-- **Every cycle that all BGs have entered is closed by all.** -/
theorem Drained.closed (hd : Drained L x) (h : x.Inv L)
    (hclient : ∀ A < L.numBG, .client c ∈ x.log A) (hb : b < L.numBG) :
    closer L.numBG c ∈ x.log b := by
  unfold closer
  split
  · exact hclient b hb
  have hN : 2 ≤ L.numBG := by omega
  have hlog : ∀ {b e}, b < L.numBG → e ∈ x.log b ++ x.queue b → e ∈ x.log b := fun hb he => by
    rwa [hd.queue _ hb, List.append_nil] at he
  have hconn : ∀ A < L.numBG, .localConnectivity c ∈ x.log A := by
    intro A hA
    have hdone := hd.all_done (k := .result) h hN hclient hA
    obtain ⟨i, hi, -⟩ := hd.envoys A hA c
    refine hlog hA ((h.localConnectivity A c).mpr (hdone.imp fun B hB => ?_))
    rw [hd.committed A hA 0 (Nat.lt_of_le_of_lt (Nat.zero_le i) hi)]
    exact hlog hA ((h.fetched A c B).mpr hB)
  have hmember : ∀ A < L.numBG, .localMembership c ∈ x.log A := fun A hA =>
    hlog hA ((h.followed .connectivity (by simp) A c).mpr
      (hd.all_done (k := .connectivity) h hN hconn hA))
  exact hlog hb ((h.followed .membership (by simp) b c).mpr
    (hd.all_done (k := .membership) h hN hmember hb))

end Exchange

section Round3

variable (h : Round3Inv d σ token)
  (hwaits : ∀ y, d.Has y → ∀ e ∈ pool σ y, Waits (σ y).sl e.pMessage)

include h hwaits

/-- A request waits only for its cycle to start. -/
theorem not_asked (hA : A < d.conf.numBG) {j : Nat} (hj : j < d.conf.numSL A)
    (htrigger : k.trigger c ∈ entries σ (A, j)) : token k b A c ≠ .asked j := by
  intro htoken
  have hcount := h.requests (A, j) k b c
  rw [if_pos htoken] at hcount
  obtain ⟨e, he, hkey⟩ := Multiset.countP_pos.mp (hcount.trans_gt Nat.one_pos)
  have hwait := hwaits (A, j) ⟨hA, hj⟩ e he
  cases hm : e.pMessage with
  | round3FetchRequest m =>
    rw [hm] at hwait
    exact hwait
  | round3GeneralFetch m =>
    rw [hm] at hwait hkey
    obtain ⟨hdemanded, hnone⟩ := hwait
    have hkey : (FetchKind.connectivity, m.senderBGid.toNat, m.cycle) = (k, b, c) := by
      rw [← Option.some.inj hkey, if_pos hdemanded]
    simp only [Prod.mk.injEq] at hkey
    obtain ⟨rfl, rfl, rfl⟩ := hkey
    have hstatus := (h.sl (A, j)).status m.cycle
    rw [hnone] at hstatus
    have hidle : (exchange σ token).token .connectivity m.senderBGid.toNat A m.cycle ≠ .idle := by
      show token .connectivity m.senderBGid.toNat A m.cycle ≠ .idle
      rw [htoken]
      simp
    obtain ⟨hb, -, hne, -⟩ := (h.inv.asked _ _ _ _).mp hidle
    rcases hstatus with hclient | hclosed
    · exact hclient (h.inv.needs_committed hj htrigger (.localConnectivity m.cycle))
    · unfold closer at hclosed
      have hN : d.conf.numBG ≠ 1 := fun hN => hne (by
        have hb : m.senderBGid.toNat < d.conf.numBG := hb
        omega)
      rw [if_neg hN] at hclosed
      refine h.inv.not_closed (by simp) hidle ?_ (h.inv.mem_all hj hclosed)
      show token .connectivity m.senderBGid.toNat A m.cycle ≠ .done
      rw [htoken]
      simp
  | _ =>
    rw [hm] at hkey
    exact absurd hkey (by simp [Message.requestKey])

/-- A response waits only for the phase that needs it. -/
theorem not_answered (hcommitted : ∀ i < d.conf.numSL b,
      entries σ (b, i) = (issued σ b).map entryOf) (hb : b < d.conf.numBG)
    (hi : i < d.conf.numSL b) : token k b A c ≠ .answered i := by
  intro htoken
  have hcount := h.responses (b, i) k A c
  rw [if_pos htoken] at hcount
  obtain ⟨e, he, hkey⟩ := Multiset.countP_pos.mp (hcount.trans_gt Nat.one_pos)
  have hwait := hwaits (b, i) ⟨hb, hi⟩ e he
  have hidle : (exchange σ token).token k b A c ≠ .idle := by
    show token k b A c ≠ .idle
    rw [htoken]
    simp
  have hdone : (exchange σ token).token k b A c ≠ .done := by
    show token k b A c ≠ .done
    rw [htoken]
    simp
  obtain ⟨-, hA, hne, i', hi', -, hmem⟩ := (h.inv.asked k b A c).mp hidle
  have htrigger : k.trigger c ∈ entries σ (b, i) := by
    rw [hcommitted i hi, ← hcommitted i' hi']
    exact hmem
  have hopen : k ≠ .result → ∃ status, (σ (b, i)).sl.mapRound3Status c = some status
      ∧ StatusOk d σ (exchange σ token) (b, i) c status := by
    intro hk
    obtain ⟨hclient, hfull⟩ := h.inv.home_open hk hidle hdone hi
    have hstatus := (h.sl (b, i)).status c
    cases hget : (σ (b, i)).sl.mapRound3Status c with
    | some status =>
      rw [hget] at hstatus
      exact ⟨status, rfl, hstatus⟩
    | none =>
      rw [hget] at hstatus
      rcases hstatus with hstatus | hstatus
      · exact absurd hclient hstatus
      · unfold closer at hstatus
        have hN : d.conf.numBG ≠ 1 := fun hN => hne (by
          have hA : A < d.conf.numBG := hA
          omega)
        rw [if_neg hN] at hstatus
        exact absurd (h.inv.mem_all hi hstatus) hfull
  cases hm : e.pMessage with
  | round3FetchResponse m =>
    rw [hm] at hwait
    exact hwait
  | round3ConnectivityResponse m =>
    rw [hm] at hwait hkey
    have hkey : (FetchKind.connectivity, m.senderBGid.toNat, m.cycle) = (k, A, c) :=
      Option.some.inj hkey
    simp only [Prod.mk.injEq] at hkey
    obtain ⟨rfl, rfl, rfl⟩ := hkey
    obtain ⟨status, hget, hstatus⟩ := hopen (by simp)
    refine hwait status hget (hstatus.connecting htrigger fun hmember => ?_).2.1
    exact hdone (h.inv.token_localMembership (h.inv.mem_all hi hmember) hA hne).1
  | round3MembershipResponse m =>
    rw [hm] at hwait hkey
    have hkey : (FetchKind.membership, m.senderBGid.toNat, m.cycle) = (k, A, c) :=
      Option.some.inj hkey
    simp only [Prod.mk.injEq] at hkey
    obtain ⟨rfl, rfl, rfl⟩ := hkey
    obtain ⟨status, hget, hstatus⟩ := hopen (by simp)
    exact hwait status hget (hstatus.joining htrigger).1
  | _ =>
    rw [hm] at hkey
    exact absurd hkey (by simp [Message.responseKey])

end Round3

/-! ## Envoys -/

theorem envoyRoundRobin_lt {n : Nat} (m : Nat) {rr : UInt16} (h : rr.toNat < n) :
    (envoyRoundRobin n m rr).2.toNat < n := by
  induction m generalizing rr with
  | zero => exact h
  | succ m ih => exact ih (nextRoundRobin_lt h)

theorem envoysRrAt_lt (conf : Config) (hn : 0 < conf.numSL b) (m : Nat) :
    (envoysRrAt conf b m).toNat < conf.numSL b := by
  induction m with
  | zero => exact hn
  | succ m ih => exact envoyRoundRobin_lt _ ih

/-- In a valid configuration every client Preprepare names an SL of its BG. -/
theorem Config.Valid.exists_envoy (hvalid : d.conf.Valid) (hb : b < d.conf.numBG) (c : UInt16) :
    ∃ i < d.conf.numSL b, d.layout.envoy b c = some i := by
  obtain ⟨hpos, hquorum, -⟩ := hvalid.quorum b hb
  refine ⟨_, envoysRrAt_lt d.conf hpos (c.toNat - 1), ?_⟩
  have hnum : (d.clientProposal b c).numOfRound3Participants ≠ 0 := fun hzero => by
    refine hvalid.envoy_ne_none (c := c) hb ?_
    show envoyOf d.host (d.clientProposal b c) = none
    unfold envoyOf
    rw [if_pos hzero]
  show envoyOf d.host (d.clientProposal b c) = _
  unfold envoyOf
  rw [if_neg hnum]
  -- the list of the envoys is not empty, and it begins with the round robin counter
  obtain ⟨m, hm⟩ : ∃ m, (round3ParticipantsNum (d.conf.ofSL b 0)).toNat = m + 1 := by
    refine Nat.exists_eq_succ_of_ne_zero ?_
    show ((d.conf.numSL b : Int) - d.conf.getF b).toNat ≠ 0
    omega
  have hbytes : ∃ rest, (d.clientProposal b c).participantsAndContent
      = u16Bytes d.host (envoysRrAt d.conf b (c.toNat - 1)) ++ rest := by
    unfold Deployment.clientProposal clientPreprepare
    dsimp only
    rw [hm]
    unfold envoyRoundRobin
    rw [List.flatMap_cons, List.append_assoc]
    exact ⟨_, rfl⟩
  obtain ⟨rest, hrest⟩ := hbytes
  rw [hrest]
  exact congrArg (fun x => some x.toNat) (u16At_append d.host [] rest _)

/-! ## Quiescent states -/

/--
**No deadlock.** In a quiescent state in which no sequence counter has wrapped, every SL has passed
every client cycle to `round3_committed` that the leaders of all BGs have issued, and no leader has
anything left to propose.
-/
theorem quiescent_complete (hvalid : d.conf.Valid) (hreach : Reachable d σ)
    (hq : Quiescent d σ) (hwrap : ∀ b < d.conf.numBG, ¬ Wrapped σ b) :
    (∀ c, (∀ A < d.conf.numBG, ∃ p ∈ issued σ A, p.requestType = requestTypeFromClient
        ∧ p.cycle = c) → ∀ y, d.Has y → c ∈ closedOf (σ y).sl.history)
      ∧ ∀ b < d.conf.numBG, (σ (b, 0)).sl.pLeaderRound2PendingPreprepareRaw = [] := by
  have hok := round3Ok_of_reachable hvalid.fits hreach
  obtain ⟨token, h⟩ := hok.inv
  have halive : ∀ y, d.Has y → (σ y).crashed = false := fun y hy =>
    crashed_eq_false hvalid hreach hy.1
  have hwaits : ∀ y, d.Has y → ∀ e ∈ pool σ y, Waits (σ y).sl e.pMessage := fun y hy e he =>
    hq.waits (juggleOk_of_reachable hreach) hy (halive y hy) he
  have hpos : ∀ b < d.conf.numBG, 0 < d.conf.numSL b := fun b hb => (hvalid.quorum b hb).1
  have hround2 : ∀ b < d.conf.numBG, ∃ a log, Round2Inv d σ b a log ∧ issued σ b = log
      ∧ ∀ i < d.conf.numSL b, a.com i = log.length := by
    intro b hb
    obtain ⟨a, log, hinv⟩ := round2Inv_of_reachable hreach ⟨hb, hpos b hb⟩
    have hlog := issued_eq hinv (hpos b hb)
    have hlt : log.length < 65535 := by
      have := hwrap b hb
      unfold Wrapped at this
      rw [hlog] at this
      omega
    refine ⟨a, log, hinv, hlog, fun i hi => ?_⟩
    exact com_eq_length hinv (fun i hi => hwaits _ ⟨hb, hi⟩) (fun i hi => halive _ ⟨hb, hi⟩)
      (fun i hi => hok.unstuck _ (halive _ ⟨hb, hi⟩)) hlt hi
  have hcommitted : ∀ b < d.conf.numBG, ∀ i < d.conf.numSL b,
      entries σ (b, i) = (issued σ b).map entryOf := by
    intro b hb i hi
    obtain ⟨a, log, hinv, hlog, hcom⟩ := hround2 b hb
    unfold entries
    rw [committed_eq hinv hi, hcom i hi, List.take_length, hlog, List.map_map]
    exact List.map_congr_left fun p _ => entryOf_copy p
  have hqueue : ∀ b < d.conf.numBG, (σ (b, 0)).sl.pLeaderRound2PendingPreprepareRaw = [] := by
    intro b hb
    obtain ⟨a, log, hinv, -, hcom⟩ := hround2 b hb
    have hrunning := halive (b, 0) ⟨hb, hpos b hb⟩
    have hunstuck := hok.unstuck _ hrunning
    refine hunstuck.idle rfl ?_
    have hacc := hinv.lock.acc_le_len 0 (hpos b hb)
    rw [hinv.len, ← hcom 0 (hpos b hb)] at hacc
    cases (hinv.live 0 (hpos b hb) hrunning).phase with
    | ready hidle hstored hstatus hleader => exact (hleader rfl).mpr (hcom 0 (hpos b hb))
    | active p hp hidle => omega
    | stuck p m hm hp hidle hstatus => exact absurd rfl (hunstuck.running _ hstatus)
  refine ⟨fun c hclient y hy => ?_, hqueue⟩
  have hdrained : Drained d.layout (exchange σ token) := by
    refine ⟨hcommitted, fun b hb => ?_, fun b hb c => hvalid.exists_envoy hb c,
      fun k b hb A hA c htrigger => ?_⟩
    · exact List.map_eq_nil_iff.mpr (hqueue b hb)
    · have htrigger : ∀ j < d.conf.numSL A, k.trigger c ∈ entries σ (A, j) := fun j hj => by
        rw [hcommitted A hA j hj]
        exact htrigger
      cases htoken : token k b A c with
      | idle => exact Or.inl htoken
      | done => exact Or.inr htoken
      | asked j =>
        have hj := h.inv.asked_lt k b A c j htoken (hpos A hA)
        exact absurd htoken (not_asked h hwaits hA hj (htrigger j hj))
      | pending j =>
        obtain ⟨hj, hnot⟩ := h.inv.pending k b A c j htoken
        exact absurd (htrigger j hj) hnot
      | answered i =>
        have hi := h.inv.answered_lt k b A c i htoken
        exact absurd htoken (not_answered h hwaits (hcommitted b hb) hb hi)
  have hclosed : closer d.conf.numBG c ∈ entries σ y := by
    have hall : ∀ A < d.conf.numBG, .client c ∈ (issued σ A).map entryOf := fun A hA => by
      obtain ⟨p, hp, htype, hcycle⟩ := hclient A hA
      exact List.mem_map.mpr ⟨p, hp, entryOf_client.mpr ⟨htype, hcycle⟩⟩
    have hlog : closer d.conf.numBG c ∈ (issued σ y.1).map entryOf :=
      hdrained.closed h.inv hall hy.1
    rwa [← hcommitted y.1 hy.1 y.2 hy.2] at hlog
  rw [(h.sl y).closed, (h.sl y).storage]
  exact mem_closed.mpr hclosed

/-! ### A run to its end -/

/-- Some turns of one SL. -/
def turns (x : Peer) (n : Nat) : List Label := List.replicate n (turn x 0 0)

/-- One cycle of the two BGs, until nothing is left to do. -/
def completeRun : List Label :=
  let first := turns (0, 0)
  let other := turns (0, 1)
  let single := turns (1, 0)
  [.leaderTick 0, .leaderTick 1, .pipeReadable 0, .pipeReadable 1] ++
  first 4 ++ other 1 ++ first 2 ++ other 1 ++ single 5 ++ first 3 ++ other 3 ++ first 3 ++
  other 2 ++ first 2 ++ other 1 ++ single 8 ++ first 3 ++ other 3 ++ first 1 ++ other 1 ++
  single 5 ++ first 4 ++ other 1 ++ first 2 ++ other 1 ++ single 4

/-- What is left at an SL. -/
def restOf (σ : Cluster) (x : Peer) : Nat × Nat := ((σ x).inbox.length, (σ x).passLeft)

def clientsOf (σ : Cluster) (b : Nat) : List UInt16 :=
  ((issued σ b).filter fun p => p.requestType = requestTypeFromClient).map (·.cycle)

theorem completeRun_result : ∃ σ, Reachable twoBGs σ ∧ Quiescent twoBGs σ
    ∧ (∀ b < 2, ¬ Wrapped σ b) ∧ clientsOf σ 0 = [1] ∧ clientsOf σ 1 = [1] := by
  have hbatch : zeroBatch.length = requestBatchSize := List.length_replicate
  have hrun : (run twoBGs (sendBatch zeroBatch init) completeRun).map (fun σ =>
      ([restOf σ (0, 0), restOf σ (0, 1), restOf σ (1, 0)],
        [(issued σ 0).length, (issued σ 1).length], clientsOf σ 0, clientsOf σ 1))
      = some ([(0, 0), (0, 0), (0, 0)], [5, 5], [1], [1]) := by decide +kernel
  obtain ⟨σ, hσ, hresult⟩ := Option.map_eq_some_iff.mp hrun
  simp only [Prod.mk.injEq, List.cons.injEq, and_true] at hresult
  obtain ⟨⟨hfirst, hother, hsingle⟩, ⟨hlen, hlen'⟩, hclients, hclients'⟩ := hresult
  have hreach : Reachable twoBGs σ := by
    have hall : run twoBGs init (.clientTick (0, 1) zeroBatch :: completeRun) = some σ := by
      rw [run_clientTick hbatch, hσ]
    exact reachable_of_run .refl hall
  refine ⟨σ, hreach, fun y hy => ?_, fun b hb => ?_, hclients, hclients'⟩
  · have hrest : restOf σ y = (0, 0) := by
      obtain ⟨b, i⟩ := y
      obtain ⟨hb, hi⟩ := hy
      have hb : b < 2 := hb
      rcases Nat.le_one_iff_eq_zero_or_eq_one.mp (Nat.le_of_lt_succ hb) with rfl | rfl
      · have hi : i < 2 := hi
        rcases Nat.le_one_iff_eq_zero_or_eq_one.mp (Nat.le_of_lt_succ hi) with rfl | rfl
        · exact hfirst
        · exact hother
      · have hi : i < 1 := hi
        obtain rfl : i = 0 := by omega
        exact hsingle
    simp only [restOf, Prod.mk.injEq, List.length_eq_zero_iff] at hrest
    exact hrest
  · unfold Wrapped
    rcases Nat.le_one_iff_eq_zero_or_eq_one.mp (Nat.le_of_lt_succ hb) with rfl | rfl
    · omega
    · omega

theorem exists_of_clientsOf (h : clientsOf σ b = [c]) :
    ∃ p ∈ issued σ b, p.requestType = requestTypeFromClient ∧ p.cycle = c := by
  have hmem : c ∈ clientsOf σ b := by
    rw [h]
    exact List.mem_cons_self
  obtain ⟨p, hp, hcycle⟩ := List.mem_map.mp hmem
  obtain ⟨hp, htype⟩ := List.mem_filter.mp hp
  exact ⟨p, hp, of_decide_eq_true htype, hcycle⟩

/-- At the end of the run all SLs have closed the cycle. -/
theorem twoBGs_complete : ∃ σ, Reachable twoBGs σ ∧ Quiescent twoBGs σ
    ∧ ∀ y, twoBGs.Has y → 1 ∈ closedOf (σ y).sl.history := by
  obtain ⟨σ, hreach, hq, hwrap, hfirst, hsecond⟩ := completeRun_result
  refine ⟨σ, hreach, hq, (quiescent_complete valid_twoBGs hreach hq hwrap).1 1 fun A hA => ?_⟩
  have hA : A < 2 := hA
  rcases Nat.le_one_iff_eq_zero_or_eq_one.mp (Nat.le_of_lt_succ hA) with rfl | rfl
  · exact exists_of_clientsOf hfirst
  · exact exists_of_clientsOf hsecond

end RCanopus
