import RCanopus.Round2Inv

/-!
# The moves of an SL in round 2

What an SL does in round 2 is one of the transitions of `LockStep`: it accepts a Preprepare, it
counts a vote, it commits, or it issues the next Preprepare. Each of them keeps the invariant of
the SL that is in the dispatcher.
-/

namespace RCanopus

open Cluster

variable {d : Deployment} {σ : Cluster} {b i j n : Nat} {e : QueueElement} {a : LockStep.State}
  {log : List MessageRound2Preprepare} {p : MessageRound2Preprepare} {v : Round2View}
  {rest l : Multiset QueueElement}

/-! ## Entries -/

theorem collectorOf_eq {k : Nat} (hp : log[k]? = some p) :
    collectorOf log k = p.collectorSLid.toNat := by
  unfold collectorOf
  rw [hp]
  rfl

theorem collectorOf_append {k : Nat} (hk : k < log.length) :
    collectorOf (log ++ [p]) k = collectorOf log k := by
  unfold collectorOf
  rw [List.getElem?_append_left hk]

/-! ## What is sent -/

/-- A broadcast has one connection to every other SL. -/
theorem count_broadcastPeers {conf : Config} (hj : j < conf.numSL b) :
    (broadcastPeers (conf.ofSL b i)).count (some (b, j)) = if j = i then 0 else 1 := by
  unfold broadcastPeers
  rw [List.count_cons_of_ne (by simp), List.count_reverse]
  split
  · next hji =>
    subst hji
    refine List.count_eq_zero_of_not_mem fun h => ?_
    obtain ⟨k, hk, heq⟩ := List.mem_map.mp h
    have hkj : k = j := by simpa [localPeer] using heq
    have := (List.mem_filter.mp hk).2
    exact absurd hkj (of_decide_eq_true this)
  · next hji =>
    refine List.count_eq_one_of_mem ?_ ?_
    · refine List.Nodup.map ?_ (List.nodup_range.filter _)
      intro x y hxy
      simpa [localPeer] using hxy
    · rw [List.mem_map]
      exact ⟨j, List.mem_filter.mpr ⟨List.mem_range.mpr hj, decide_eq_true hji⟩, rfl⟩

/-- A broadcast arrives at every SL once. -/
theorem sent_broadcast {conf : Config} {m : Message} (hj : j < conf.numSL b) :
    sent (b, i) [{ upPeers := broadcastPeers (conf.ofSL b i), pMessage := m }] (b, j)
      = {{ upPeers := [source b j i], pMessage := m.copy }} := by
  rw [sent_singleton]
  unfold deliveries
  dsimp only
  rw [List.filter_eq, count_broadcastPeers hj]
  unfold source
  by_cases hji : j = i
  · subst hji
    simp [broadcastPeers]
  · simp [hji, Ne.symm hji]

/-- A partial commit arrives at the collector. -/
theorem sent_partialCommit {conf : Config} {k : Nat} (hp : EntryOk n k p) :
    sent (b, i) [partialCommitElement (conf.ofSL b i) p.copy] (b, j)
      = if p.collectorSLid.toNat = j then {voteAt b j k i} else 0 := by
  have hview : p.copy.view = 1 := hp.view
  have hseq : p.copy.seq = seqOf k := hp.seq
  have hcopy : p.copy.collectorSLid = p.collectorSLid := rfl
  rw [sent_singleton]
  unfold deliveries partialCommitElement collectorPeer localPeer voteAt source
  dsimp only
  rw [List.filter_eq, hview, hseq, hcopy]
  by_cases hci : p.collectorSLid.toNat = i
  · by_cases hij : i = j
    · subst hij
      simp [hci, Message.copy]
    · simp [hci, hij, eq_comm]
  · by_cases hcj : p.collectorSLid.toNat = j
    · subst hcj
      simp [hci, Message.copy, Ne.symm hci]
    · simp [hci, hcj]

/-- A full commit arrives at every SL. -/
theorem sent_fullCommit {conf : Config} {k : Nat} (hp : EntryOk n k p) (hj : j < conf.numSL b) :
    sent (b, i) [fullCommitElement (conf.ofSL b i) p.copy] (b, j) = {fullCommitAt b j k i} := by
  have hview : p.copy.view = 1 := hp.view
  have hseq : p.copy.seq = seqOf k := hp.seq
  unfold fullCommitElement
  rw [sent_broadcast hj, hview, hseq]
  rfl

theorem localTo_broadcast {conf : Config} {m : Message} :
    LocalTo b { upPeers := broadcastPeers (conf.ofSL b i), pMessage := m } := by
  intro peer hpeer
  rcases List.mem_cons.mp hpeer with rfl | hpeer
  · exact Or.inl rfl
  · rw [List.mem_reverse, List.mem_map] at hpeer
    obtain ⟨sl, -, rfl⟩ := hpeer
    exact Or.inr ⟨sl, rfl⟩

theorem localTo_partialCommit {conf : Config} :
    LocalTo b (partialCommitElement (conf.ofSL b i) p) := by
  intro peer hpeer
  have hpeer : peer = collectorPeer (conf.ofSL b i) p := List.mem_singleton.mp hpeer
  unfold collectorPeer at hpeer
  split at hpeer
  · exact Or.inl hpeer
  · exact Or.inr ⟨_, hpeer⟩

/-! ## Elements that are juggled or dropped -/

theorem Staged.cons_assoc {juggled sends : Multiset QueueElement} :
    e ::ₘ rest + juggled + sends = e ::ₘ (rest + juggled + sends) := by
  rw [Multiset.cons_add, Multiset.cons_add]

/-- A juggled element waits as before. -/
theorem Staged.juggle (hst : Staged d σ b i (e ::ₘ rest) a log v) :
    Staged d σ b i rest a log (v.juggle e) := by
  refine { hst with
    trace_self := hst.trace_self
    live_self := hst.live_self.of_eq rfl
    flight_self := hst.flight_self.congr fun t _ => ?_
    flight_others := hst.flight_others
    sends_local := hst.sends_local }
  have hjuggled : (↑(v.juggle e).trace.juggled : Multiset QueueElement)
      = e ::ₘ ↑v.trace.juggled := by
    show (↑(v.trace.juggled ++ [e]) : Multiset QueueElement) = _
    rw [← Multiset.coe_add, Multiset.coe_singleton, add_comm, Multiset.singleton_add]
  rw [hjuggled, Multiset.add_cons, Multiset.cons_add, Staged.cons_assoc]
  rfl

/-- An element that is not of round 2 leaves the pool. -/
theorem Staged.drop (hst : Staged d σ b i (e ::ₘ rest) a log v)
    (he : e.pMessage.isRound2 = false) : Staged d σ b i rest a log v := by
  refine { hst with flight_self := hst.flight_self.congr fun t ht => ?_ }
  rw [Staged.cons_assoc, ofType_cons_of_ne]
  intro h
  rw [← h] at ht
  exact absurd (he.symm.trans ht) (by simp)

/-- The leader drops an empty message. -/
theorem Staged.drop_empty (hst : Staged d σ b i (e ::ₘ rest) a log v)
    (he : e.pMessage.msgType = .empty) : i = 0 ∧ Staged d σ b i rest a log v := by
  have hflight := hst.flight_self
  rw [Staged.cons_assoc] at hflight
  have hi : i = 0 := by
    refine (hflight.empty e ?_).1
    rw [ofType_cons_self he]
    exact Multiset.mem_cons_self _ _
  have hne : ∀ t, t ≠ .empty → e.pMessage.msgType ≠ t := fun t ht h => ht (h.symm.trans he)
  refine ⟨hi, { hst with flight_self := ?_ }⟩
  exact {
    preprepare := by
      rw [← hflight.preprepare, ofType_cons_of_ne (hne _ (by simp))]
    partialCommit := by
      rw [← hflight.partialCommit, ofType_cons_of_ne (hne _ (by simp))]
    fullCommit := by
      rw [← hflight.fullCommit, ofType_cons_of_ne (hne _ (by simp))]
    empty := fun e' he' => hflight.empty e' (by
      rw [ofType_cons_self he]
      exact Multiset.mem_cons_of_mem he') }

/-! ## Accepting a Preprepare -/

/-- Who accepts has not voted yet. -/
theorem openVotes_accept (h : LockStep.Inv n a) (hi : i < n) (hidle : a.acc i = a.closed) :
    (openVotes n (a.accept i)).val = i ::ₘ (openVotes n a).val := by
  have hnot : i ∉ openVotes n a := fun hmem => by
    have := (Finset.mem_filter.mp hmem).2.1
    omega
  rw [← Finset.insert_val_of_notMem hnot]
  congr 1
  ext j
  unfold openVotes
  simp only [Finset.mem_filter, Finset.mem_range, Finset.mem_insert, a.accept_acc i j]
  show (j < n ∧ a.closed < _ ∧ j ∉ a.votes a.closed) ↔ _
  by_cases hj : j = i
  · subst hj
    rw [if_pos rfl]
    refine ⟨fun _ => Or.inl rfl, fun _ => ⟨hi, by omega, fun hv => ?_⟩⟩
    have := (h.votes_acc a.closed j hv).2
    omega
  · rw [if_neg hj]
    exact ⟨fun h => Or.inr h, fun h => h.resolve_left hj⟩

/-- The vote is on its way, and the Preprepare is not any more. -/
theorem InFlight.accept {l' : Multiset QueueElement}
    (h : InFlight b n j a log l) (conf : Config) (hlog : LogOk n a log) (hi : i < n)
    (hidle : a.acc i = a.closed) (hp : log[a.closed]? = some p)
    (hpreprepare : ofType .round2Preprepare l'
      = ↑((log.drop ((a.accept i).acc j)).map (preprepareAt b j)))
    (hl' : ∀ t, t ≠ .round2Preprepare → ofType t l' = ofType t l) :
    InFlight b n j (a.accept i) log
      (l' + sent (b, i) [partialCommitElement (conf.ofSL b i) p.copy] (b, j)) := by
  have hzero : ∀ t : MessageType, t ≠ .round2PartialCommit →
      ofType t (sent (b, i) [partialCommitElement (conf.ofSL b i) p.copy] (b, j)) = 0 := by
    intro t ht
    refine ofType_sent_eq_zero fun e he => ?_
    rw [List.mem_singleton] at he
    subst he
    exact ht.symm
  refine {
    preprepare := ?_
    partialCommit := ?_
    fullCommit := ?_
    empty := fun e he => ?_ }
  · rw [ofType_add, hzero .round2Preprepare (by simp), add_zero, hpreprepare]
  · rw [ofType_add, hl' .round2PartialCommit (by simp), h.partialCommit,
      sent_partialCommit (hlog.entries _ _ hp)]
    show _ = if collectorOf log a.closed = j then
      (openVotes n (a.accept i)).val.map (voteAt b j a.closed) else 0
    rw [openVotes_accept hlog.lock hi hidle, collectorOf_eq hp]
    split
    · rw [ofType_singleton_self (msgType_voteAt ..), Multiset.map_cons, add_comm,
        Multiset.singleton_add]
    · rw [ofType_zero, add_zero]
  · rw [ofType_add, hzero .round2FullCommit (by simp), add_zero, hl' .round2FullCommit (by simp)]
    exact h.fullCommit
  · rw [ofType_add, hzero .empty (by simp), add_zero, hl' .empty (by simp)] at he
    exact h.empty e he

theorem NodeTrace.congr {a' : LockStep.State} {events : List Event}
    (h : NodeTrace b n j a log events) (hacc : a'.acc j = a.acc j) (hcom : a'.com j = a.com j)
    (hclosed : a'.closed = a.closed) (hvotes : a'.votes = a.votes) :
    NodeTrace b n j a' log events where
  issued := h.issued
  accepted := by rw [hacc]; exact h.accepted
  committed := by rw [hcom]; exact h.committed
  counted := by
    have hcounted : countedAt b j a' log = countedAt b j a log := by
      funext k
      unfold countedAt
      rw [hvotes]
    rw [hclosed, hcounted]
    exact h.counted
  sent := by rw [hclosed]; exact h.sent

/-- What the other SLs do does not matter to an SL, but the collector sees the votes. -/
theorem NodeLive.congr {a' : LockStep.State} (h : NodeLive n j a log v)
    (hacc : a'.acc j = a.acc j) (hcom : a'.com j = a.com j)
    (hopen : collectorOf log a.closed = j → a'.closed = a.closed ∧ a'.votes = a.votes)
    (hle : a.com j ≤ a.closed) (hclosed : a.closed ≤ a'.closed) : NodeLive n j a' log v := by
  obtain ⟨hview, hseq, hrr, hphase⟩ := h
  refine ⟨hview, ?_, hrr, ?_⟩
  · rw [hacc]
    exact hseq
  · cases hphase with
    | ready hidle hstored hstatus hleader =>
      refine .ready (by rw [hacc, hcom, hidle]) hstored hstatus fun hj => ?_
      subst hj
      rw [hcom]
      exact hleader rfl
    | active p hp hidle hstored hcollector hstatus =>
      refine .active p (by rw [hcom]; exact hp) (by rw [hacc, hcom, hidle]) hstored hcollector ?_
      rw [hstatus, hcom]
      by_cases hc : p.collectorSLid.toNat = j ∧ a.com j = a.closed
      · obtain ⟨hclosed', hvotes⟩ := hopen (by rw [← hc.2, collectorOf_eq hp, hc.1])
        rw [hclosed', hvotes]
      · rw [if_neg hc, if_neg fun hc' => hc ⟨hc'.1, ?_⟩]
        -- the collector of the open entry sees no other entry being closed
        rcases Nat.eq_or_lt_of_le hle with h | h
        · exact h
        · omega
    | stuck p k hk hp hidle hstatus =>
      exact .stuck p k (by rw [hcom, hk]) hp (by rw [hacc, hcom, hidle]) hstatus

theorem seqOf_succ (k : Nat) : seqOf (k + 1) = seqOf k + 1 := by
  unfold seqOf
  rw [UInt16.ofNat_add (k + 1) 1]
  rfl

theorem NodeTrace.accept {events : List Event} (h : NodeTrace b n i a log events)
    (hp : log[a.acc i]? = some p) :
    NodeTrace b n i (a.accept i) log (events ++ [.accepted p.copy]) where
  issued := by
    rw [issuedOf_append]
    exact (List.append_nil _).trans h.issued
  accepted := by
    obtain ⟨hlt, hget⟩ := List.getElem?_eq_some_iff.mp hp
    rw [a.accept_acc, if_pos rfl, List.take_add_one, hp, Option.toList_some, List.map_append,
      ← h.accepted]
    exact acceptedOf_append ..
  committed := by
    rw [committedOf_append]
    exact (List.append_nil _).trans h.committed
  counted := by
    rw [countedOf_append]
    exact (List.append_nil _).trans h.counted
  sent := by
    rw [sentFullCommitOf_append]
    exact (List.append_nil _).trans h.sent

theorem NodeLive.accept {conf : Config} (h : NodeLive (conf.numSL b) i a log v)
    (hp : log[a.acc i]? = some p) (hready : a.acc i = a.com i) (hidle : a.acc i = a.closed)
    (hnone : p.collectorSLid.toNat = i → a.votes a.closed = []) :
    NodeLive (conf.numSL b) i (a.accept i) log (v.accept (conf.ofSL b i) p.copy) := by
  have hacc : (a.accept i).acc i = a.acc i + 1 := by rw [a.accept_acc, if_pos rfl]
  refine ⟨h.nextView, ?_, h.collectorRr, ?_⟩
  · rw [hacc]
    show (if i = 0 then v.nextSeq else v.nextSeq + 1) = _
    rw [h.nextSeq]
    split
    · rfl
    · rw [seqOf_succ]
  · refine .active p ?_ ?_ rfl rfl ?_
    · show log[a.com i]? = _
      rw [← hready, hp]
    · show (a.accept i).acc i = a.com i + 1
      rw [hacc, hready]
    · show some (if p.collectorSLid.toNat = i then CycleStatus.collecting (conf.numSL b) p.copy 0
        else .waitingForFullcommit p.copy)
          = some (if p.collectorSLid.toNat = i ∧ a.com i = a.closed then
            CycleStatus.collecting (conf.numSL b) p.copy (a.votes a.closed).length
            else .waitingForFullcommit p.copy)
      by_cases hc : p.collectorSLid.toNat = i
      · rw [if_pos hc, if_pos ⟨hc, hready ▸ hidle⟩, hnone hc, List.length_nil]
      · rw [if_neg hc, if_neg fun h => hc h.1]

/-- SL `i` accepts the next Preprepare. -/
theorem Staged.accept (hst : Staged d σ b i (preprepareAt b i p ::ₘ rest) a log v)
    (hi : i < d.conf.numSL b) (hp : log[a.acc i]? = some p) (hready : a.acc i = a.com i)
    (hshort : i = 0 → log.length < 65535) :
    Staged d σ b i rest (a.accept i) log (v.accept (d.conf.ofSL b i) p.copy) := by
  have hlock := hst.lock
  have hlt : a.acc i < log.length := (List.getElem?_eq_some_iff.mp hp).1
  have hlen := hst.len
  have hidle : a.acc i = a.closed := by
    have h1 := hlock.closed_le_acc i hi
    have h2 := hlock.com_le_closed i hi
    omega
  have hentry := hst.entries _ _ hp
  have hp' : log[a.closed]? = some p := by rw [← hidle]; exact hp
  have haccself : (a.accept i).acc i = a.acc i + 1 := by rw [a.accept_acc, if_pos rfl]
  have haccother : ∀ j, j ≠ i → (a.accept i).acc j = a.acc j := fun j hj => by
    rw [a.accept_acc, if_neg hj]
  refine {
    lock := hlock.accept hready (by rw [hlen]; exact hlt)
    len := hlen
    short := ?_
    collected := ?_
    entries := hst.entries
    trace_self := ?_
    live_self := ?_
    flight_self := ?_
    trace_others := fun j hj hji =>
      (hst.trace_others j hj hji).congr (haccother j hji) rfl rfl rfl
    live_others := fun j hj hji hcrashed =>
      (hst.live_others j hj hji hcrashed).congr (haccother j hji) rfl (fun _ => ⟨rfl, rfl⟩)
        (hlock.com_le_closed j hj) (Nat.le_refl _)
    flight_others := ?_
    sends_local := ?_ }
  · rw [a.accept_acc]
    split
    · next h0 =>
      have := hshort h0.symm
      omega
    · exact hst.short
  · intro hvotes
    have := hst.collected hvotes
    rw [a.accept_acc]
    show a.closed < if _ then _ else a.acc (collectorOf log a.closed)
    split
    · exact hidle ▸ Nat.lt_succ_self _
    · exact this
  · exact hst.trace_self.accept hp
  · refine hst.live_self.accept hp hready hidle fun hc => ?_
    by_contra hvotes
    have := hst.collected hvotes
    rw [collectorOf_eq hp', hc] at this
    omega
  · have hflight := hst.flight_self
    rw [Staged.cons_assoc] at hflight
    have htake : ofType .round2Preprepare
        (rest + ↑v.trace.juggled + sent (b, i) v.trace.sends (b, i))
          = ↑((log.drop (a.acc i + 1)).map (preprepareAt b i)) := by
      have h := hflight.preprepare
      rw [ofType_cons_self (msgType_preprepareAt ..), List.drop_eq_getElem_cons hlt,
        List.map_cons, ← Multiset.cons_coe, (List.getElem?_eq_some_iff.mp hp).2] at h
      exact (Multiset.cons_inj_right _).mp h
    have h := hflight.accept d.conf hst.toLogOk hi hidle hp'
      (by rw [haccself]; exact htake)
      fun t ht => (ofType_cons_of_ne (fun h => ht h.symm) _).symm
    rw [show sent (b, i) (v.accept (d.conf.ofSL b i) p.copy).trace.sends (b, i)
      = sent (b, i) v.trace.sends (b, i)
        + sent (b, i) [partialCommitElement (d.conf.ofSL b i) p.copy] (b, i)
      from sent_append _ _, ← add_assoc]
    exact h
  · intro j hj hji
    have hflight := hst.flight_others j hj hji
    have h := hflight.accept d.conf hst.toLogOk hi hidle hp'
      (by rw [haccother j hji]; exact hflight.preprepare) fun t _ => rfl
    rw [show sent (b, i) (v.accept (d.conf.ofSL b i) p.copy).trace.sends (b, j)
      = sent (b, i) v.trace.sends (b, j)
        + sent (b, i) [partialCommitElement (d.conf.ofSL b i) p.copy] (b, j)
      from sent_append _ _, ← add_assoc]
    exact h
  · intro e he
    rcases List.mem_append.mp he with he | he
    · exact hst.sends_local e he
    · rw [List.mem_singleton] at he
      rw [he]
      exact localTo_partialCommit

/-! ## Counting a vote -/

/-- The vote that was counted is not open any more. -/
theorem openVotes_count (hlast : (a.votes a.closed).length + 1 ≠ n) :
    openVotes n (a.count n j) = (openVotes n a).erase j := by
  ext k
  unfold openVotes
  rw [LockStep.State.count_closed_of_ne hlast, a.count_votes, if_pos rfl]
  simp only [Finset.mem_filter, Finset.mem_range, Finset.mem_erase, List.mem_append,
    List.mem_singleton, not_or]
  show (k < n ∧ a.closed < a.acc k ∧ _) ↔ _
  tauto

section Count

variable (hlog : LogOk n a log)

include hlog

/-- What SL `i` has counted after one more vote. -/
theorem counted_count (i : Nat) :
    (List.range ((a.count n j).closed + 1)).flatMap (countedAt b i (a.count n j) log)
      = (List.range (a.closed + 1)).flatMap (countedAt b i a log)
        ++ if collectorOf log a.closed = i then [countedVote b i a.closed j] else [] := by
  have hearlier : ∀ k ∈ List.range a.closed,
      countedAt b i (a.count n j) log k = countedAt b i a log k := fun k hk => by
    unfold countedAt
    rw [a.count_votes, if_neg (Nat.ne_of_lt (List.mem_range.mp hk))]
  have hclosed : countedAt b i (a.count n j) log a.closed
      = countedAt b i a log a.closed
        ++ if collectorOf log a.closed = i then [countedVote b i a.closed j] else [] := by
    unfold countedAt
    rw [a.count_votes, if_pos rfl]
    split
    · rw [List.map_append]
      rfl
    · rfl
  have hsucc : (List.range (a.closed + 1)).flatMap (countedAt b i (a.count n j) log)
      = (List.range (a.closed + 1)).flatMap (countedAt b i a log)
        ++ if collectorOf log a.closed = i then [countedVote b i a.closed j] else [] := by
    rw [List.range_succ, List.flatMap_append, List.flatMap_append, List.flatMap_singleton,
      List.flatMap_singleton, hclosed, ← List.append_assoc]
    congr 2
    exact List.flatMap_congr hearlier
  by_cases hlast : (a.votes a.closed).length + 1 = n
  · have hlater : countedAt b i (a.count n j) log (a.closed + 1) = [] := by
      unfold countedAt
      rw [a.count_votes, if_neg (Nat.succ_ne_self a.closed),
        hlog.lock.votes_later _ (Nat.lt_succ_self _)]
      split <;> rfl
    rw [LockStep.State.count_closed_last hlast, List.range_succ, List.flatMap_append, hsucc,
      List.flatMap_singleton, hlater, List.append_nil]
  · rw [LockStep.State.count_closed_of_ne hlast, hsucc]

theorem NodeTrace.count {events : List Event} (h : NodeTrace b n i a log events)
    (hcollector : collectorOf log a.closed = i) (hlast : (a.votes a.closed).length + 1 ≠ n) :
    NodeTrace b n i (a.count n j) log
      (events ++ [.counted (source b i j) (partialCommitMessage j 1 (seqOf a.closed)) 1
        (seqOf a.closed)]) where
  issued := by
    rw [issuedOf_append]
    exact (List.append_nil _).trans h.issued
  accepted := by
    rw [acceptedOf_append]
    exact (List.append_nil _).trans h.accepted
  committed := by
    rw [committedOf_append]
    exact (List.append_nil _).trans h.committed
  counted := by
    rw [countedOf_append, counted_count hlog, if_pos hcollector, h.counted]
    rfl
  sent := by
    rw [sentFullCommitOf_append, LockStep.State.count_closed_of_ne hlast]
    exact (List.append_nil _).trans h.sent

theorem NodeTrace.count_last {events : List Event} (h : NodeTrace b n i a log events)
    (hcollector : collectorOf log a.closed = i) (hlast : (a.votes a.closed).length + 1 = n) :
    NodeTrace b n i (a.count n j) log
      (events ++ [.counted (source b i j) (partialCommitMessage j 1 (seqOf a.closed)) 1
        (seqOf a.closed), .sentFullCommit (fullCommitMessage i 1 (seqOf a.closed)) n]) where
  issued := by
    rw [issuedOf_append]
    exact (List.append_nil _).trans h.issued
  accepted := by
    rw [acceptedOf_append]
    exact (List.append_nil _).trans h.accepted
  committed := by
    rw [committedOf_append]
    exact (List.append_nil _).trans h.committed
  counted := by
    rw [countedOf_append, counted_count hlog, if_pos hcollector, h.counted]
    rfl
  sent := by
    rw [sentFullCommitOf_append, LockStep.State.count_closed_last hlast, List.range_succ,
      List.filter_append, List.map_append, ← h.sent, List.filter_singleton,
      decide_eq_true hcollector]
    rfl

/-- A vote does not concern the SLs that do not collect it. -/
theorem NodeTrace.count_other {k : Nat} {events : List Event} (h : NodeTrace b n k a log events)
    (hcollector : collectorOf log a.closed ≠ k) :
    NodeTrace b n k (a.count n j) log events where
  issued := h.issued
  accepted := h.accepted
  committed := h.committed
  counted := by
    rw [counted_count hlog, if_neg hcollector, List.append_nil]
    exact h.counted
  sent := by
    by_cases hlast : (a.votes a.closed).length + 1 = n
    · rw [LockStep.State.count_closed_last hlast, List.range_succ, List.filter_append,
        List.filter_singleton, decide_eq_false hcollector]
      exact (List.append_nil _).symm ▸ h.sent
    · rw [LockStep.State.count_closed_of_ne hlast]
      exact h.sent

theorem NodeLive.count_other {k : Nat} (h : NodeLive n k a log v) (hk : k < n)
    (hcollector : collectorOf log a.closed ≠ k) : NodeLive n k (a.count n j) log v := by
  refine h.congr rfl rfl (fun hc => absurd hc hcollector) (hlog.lock.com_le_closed k hk) ?_
  show a.closed ≤ if _ then a.closed + 1 else a.closed
  split
  · exact Nat.le_succ _
  · exact Nat.le_refl _

theorem NodeLive.count (h : NodeLive n i a log v) (hp : log[a.closed]? = some p)
    (hcollector : p.collectorSLid.toNat = i) (hi : i < n) (hopen : a.closed < a.acc i)
    (hlast : (a.votes a.closed).length + 1 ≠ n) (sender : Option Peer)
    (m : MessageRound2PartialCommit) :
    NodeLive n i (a.count n j) log (v.count n p.copy (a.votes a.closed).length sender m) := by
  obtain ⟨hacc, hcom⟩ := hlog.lock.open_of_lt hi hopen
  have hphase := h.phase
  refine ⟨h.nextView, h.nextSeq, h.collectorRr, ?_⟩
  cases hphase with
  | ready hidle => omega
  | stuck p k hk hp hidle => omega
  | active q hq hidle hstored hcollector' hstatus =>
    rw [hcom, hp, Option.some.injEq] at hq
    subst hq
    refine .active p ?_ hidle hstored hcollector' ?_
    · show log[a.com i]? = some p
      rw [hcom, hp]
    · rw [LockStep.State.count_closed_of_ne hlast, a.count_votes, if_pos rfl, List.length_append,
        List.length_singleton]
      exact congrArg some (if_pos ⟨hcollector, hcom⟩).symm

theorem NodeLive.count_last {conf : Config} (h : NodeLive n i a log v)
    (hp : log[a.closed]? = some p) (hi : i < n) (hopen : a.closed < a.acc i)
    (hlast : (a.votes a.closed).length + 1 = n) (counter : Nat) (sender : Option Peer)
    (m : MessageRound2PartialCommit) :
    NodeLive n i (a.count n j) log (v.countLast conf p.copy counter sender m) := by
  obtain ⟨hacc, hcom⟩ := hlog.lock.open_of_lt hi hopen
  have hphase := h.phase
  refine ⟨h.nextView, h.nextSeq, h.collectorRr, ?_⟩
  cases hphase with
  | ready hidle => omega
  | stuck p k hk hp hidle => omega
  | active q hq hidle hstored hcollector' hstatus =>
    rw [hcom, hp, Option.some.injEq] at hq
    subst hq
    refine .active p ?_ hidle hstored hcollector' ?_
    · show log[a.com i]? = some p
      rw [hcom, hp]
    · rw [LockStep.State.count_closed_last hlast]
      refine congrArg some (if_neg fun hc => ?_).symm
      have hc : a.com i = a.closed + 1 := hc.2
      omega

variable (hj : j ∈ openVotes n a)

include hj

theorem LogOk.count (hp : log[a.closed]? = some p) (hcollector : p.collectorSLid.toNat = i)
    (hopen : a.closed < a.acc i) : LogOk n (a.count n j) log := by
  obtain ⟨hjn, hjacc, hjnew⟩ := Finset.mem_filter.mp hj
  refine {
    lock := hlog.lock.count (Finset.mem_range.mp hjn) hjacc hjnew
    len := hlog.len
    short := hlog.short
    collected := ?_
    entries := hlog.entries }
  intro hvotes
  by_cases hlast : (a.votes a.closed).length + 1 = n
  · rw [LockStep.State.count_closed_last hlast, a.count_votes, if_neg (by omega),
      hlog.lock.votes_later _ (Nat.lt_succ_self _)] at hvotes
    exact absurd rfl hvotes
  · rw [LockStep.State.count_closed_of_ne hlast, collectorOf_eq hp, hcollector]
    exact hopen

/-- After the last vote all have accepted the entry and nobody has committed it. -/
theorem LogOk.count_last (hlast : (a.votes a.closed).length + 1 = n) {k : Nat} (hk : k < n) :
    a.acc k = a.closed + 1 ∧ a.com k = a.closed := by
  obtain ⟨hjn, hjacc, hjnew⟩ := Finset.mem_filter.mp hj
  have hlock := hlog.lock.count (Finset.mem_range.mp hjn) hjacc hjnew
  have h := hlock.closed_le_acc k hk
  rw [LockStep.State.count_closed_last hlast] at h
  have hlt : a.closed < a.acc k := h
  exact hlog.lock.open_of_lt hk hlt

theorem openVotes_count_last (hlast : (a.votes a.closed).length + 1 = n) :
    openVotes n (a.count n j) = ∅ := by
  rw [Finset.eq_empty_iff_forall_notMem]
  intro k hk
  obtain ⟨hkn, hkacc, -⟩ := Finset.mem_filter.mp hk
  rw [LockStep.State.count_closed_last hlast] at hkacc
  have hkacc : a.closed + 1 < a.acc k := hkacc
  have := (hlog.count_last hj hlast (Finset.mem_range.mp hkn)).1
  omega

/-- The last vote was the only one. -/
theorem erase_openVotes_last (hlast : (a.votes a.closed).length + 1 = n) :
    (openVotes n a).erase j = ∅ := by
  rw [Finset.eq_empty_iff_forall_notMem]
  intro k hk
  obtain ⟨hkj, hk⟩ := Finset.mem_erase.mp hk
  obtain ⟨hkn, -, hknew⟩ := Finset.mem_filter.mp hk
  obtain ⟨hjn, hjacc, hjnew⟩ := Finset.mem_filter.mp hj
  have hlock := hlog.lock.count (Finset.mem_range.mp hjn) hjacc hjnew
  have hmem := hlock.mem_votes (k := a.closed)
    (by rw [LockStep.State.count_closed_last hlast]; exact Nat.lt_succ_self _)
    (Finset.mem_range.mp hkn)
  rw [a.count_votes, if_pos rfl] at hmem
  rcases List.mem_append.mp hmem with h | h
  · exact hknew h
  · exact hkj (List.mem_singleton.mp h)

section InFlight

variable {k : Nat} {l' : Multiset QueueElement} (h : InFlight b n k a log l)
  (hl' : ∀ t, t ≠ .round2PartialCommit → ofType t l' = ofType t l)
  (hvotes : ofType .round2PartialCommit l' = if collectorOf log a.closed = k then
    ((openVotes n a).erase j).val.map (voteAt b k a.closed) else 0)

include h hl' hvotes

omit hlog hj in
/-- The vote is counted and no longer waits. -/
theorem InFlight.count (hlast : (a.votes a.closed).length + 1 ≠ n) :
    InFlight b n k (a.count n j) log l' where
  preprepare := (hl' _ (by simp)).trans h.preprepare
  partialCommit := by
    rw [openVotes_count hlast, LockStep.State.count_closed_of_ne hlast]
    exact hvotes
  fullCommit := by
    rw [LockStep.State.count_closed_of_ne hlast]
    exact (hl' _ (by simp)).trans h.fullCommit
  empty := fun e he => h.empty e (hl' .empty (by simp) ▸ he)

/-- After the last vote the full commit is on its way. -/
theorem InFlight.count_last (hcollector : collectorOf log a.closed = i) (hk : k < n)
    (hlast : (a.votes a.closed).length + 1 = n) :
    InFlight b n k (a.count n j) log (l' + {fullCommitAt b k a.closed i}) := by
  obtain ⟨hacc, hcom⟩ := hlog.count_last hj hlast hk
  have hzero : ∀ t, t ≠ MessageType.round2FullCommit →
      ofType t {fullCommitAt b k a.closed i} = 0 := fun t ht =>
    ofType_eq_zero fun e he => by
      rw [Multiset.mem_singleton] at he
      rw [he, msgType_fullCommitAt]
      exact ht.symm
  refine {
    preprepare := ?_
    partialCommit := ?_
    fullCommit := ?_
    empty := fun e he => ?_ }
  · rw [ofType_add, hzero _ (by decide), add_zero]
    exact (hl' _ (by decide)).trans h.preprepare
  · rw [ofType_add, hzero _ (by decide), add_zero, openVotes_count_last hlog hj hlast, hvotes,
      erase_openVotes_last hlog hj hlast]
    simp
  · rw [ofType_add, hl' _ (by decide), h.fullCommit, if_neg (by omega), zero_add,
      ofType_singleton_self (msgType_fullCommitAt ..), LockStep.State.count_closed_last hlast]
    show _ = if a.com k < a.closed + 1 then
      {fullCommitAt b k (a.com k) (collectorOf log (a.com k))} else 0
    rw [if_pos (by omega), hcom, hcollector]
  · rw [ofType_add, hzero _ (by decide), add_zero, hl' _ (by decide)] at he
    exact h.empty e he

end InFlight

end Count

theorem Staged.others_self {juggled sends : Multiset QueueElement} {k : Nat} (t : MessageType)
    (ht : t ≠ .round2PartialCommit) :
    ofType t (rest + juggled + sends) = ofType t (voteAt b i k j ::ₘ rest + juggled + sends) := by
  rw [Staged.cons_assoc, ofType_cons_of_ne]
  exact ht.symm

section StagedCount

variable (hst : Staged d σ b i (voteAt b i a.closed j ::ₘ rest) a log v)
  (hp : log[a.closed]? = some p) (hcollector : p.collectorSLid.toNat = i)
  (hi : i < d.conf.numSL b) (hopen : a.closed < a.acc i) (hj : j ∈ openVotes (d.conf.numSL b) a)

include hst hp hcollector hi hopen hj

omit hi hopen in
/-- The votes that still wait at the collector. -/
theorem Staged.votes_self :
    ofType .round2PartialCommit (rest + ↑v.trace.juggled + sent (b, i) v.trace.sends (b, i))
      = if collectorOf log a.closed = i then
          ((openVotes (d.conf.numSL b) a).erase j).val.map (voteAt b i a.closed) else 0 := by
  have h := hst.flight_self.partialCommit
  rw [Staged.cons_assoc, ofType_cons_self (msgType_voteAt ..), collectorOf_eq hp,
    if_pos hcollector, ← Finset.insert_erase hj,
    Finset.insert_val_of_notMem (Finset.notMem_erase j _), Multiset.map_cons] at h
  rw [collectorOf_eq hp, if_pos hcollector]
  exact (Multiset.cons_inj_right _).mp h

omit hi hopen hj in
/-- No votes wait at the other SLs. -/
theorem Staged.votes_other {k : Nat} (hk : k < d.conf.numSL b) (hki : k ≠ i) :
    ofType .round2PartialCommit (pool σ (b, k) + sent (b, i) v.trace.sends (b, k))
      = if collectorOf log a.closed = k then
          ((openVotes (d.conf.numSL b) a).erase j).val.map (voteAt b k a.closed) else 0 := by
  have h := (hst.flight_others k hk hki).partialCommit
  have hne : collectorOf log a.closed ≠ k := by
    rw [collectorOf_eq hp, hcollector]
    exact hki.symm
  rw [h, if_neg hne, if_neg hne]

/-- SL `i` counts a vote, which is not the last. -/
theorem Staged.count (hlast : (a.votes a.closed).length + 1 ≠ d.conf.numSL b) :
    Staged d σ b i rest (a.count (d.conf.numSL b) j) log
      (v.count (d.conf.numSL b) p.copy (a.votes a.closed).length (source b i j)
        (partialCommitMessage j 1 (seqOf a.closed))) := by
  have hlog := hst.toLogOk
  have hentry := hlog.entries _ _ hp
  have hcollector' : collectorOf log a.closed = i := by rw [collectorOf_eq hp, hcollector]
  refine { hlog.count hj hp hcollector hopen with
    trace_self := ?_
    live_self := hst.live_self.count hlog hp hcollector hi hopen hlast _ _
    flight_self := hst.flight_self.count Staged.others_self (hst.votes_self hp hcollector hj) hlast
    trace_others := fun k hk hki => (hst.trace_others k hk hki).count_other hlog (by
      rw [hcollector']; exact hki.symm)
    live_others := fun k hk hki hcrashed =>
      (hst.live_others k hk hki hcrashed).count_other hlog hk (by
        rw [hcollector']; exact hki.symm)
    flight_others := fun k hk hki => (hst.flight_others k hk hki).count (fun _ _ => rfl)
      (hst.votes_other hp hcollector hk hki) hlast
    sends_local := hst.sends_local }
  have h := hst.trace_self.count (j := j) hlog hcollector' hlast
  show NodeTrace b _ i _ log (v.trace.events ++ [.counted _ _ p.view p.seq])
  rw [hentry.view, hentry.seq]
  exact h

/-- SL `i` counts the last vote and broadcasts the full commit. -/
theorem Staged.countLast (hlast : (a.votes a.closed).length + 1 = d.conf.numSL b) :
    Staged d σ b i rest (a.count (d.conf.numSL b) j) log
      (v.countLast (d.conf.ofSL b i) p.copy (a.votes a.closed).length (source b i j)
        (partialCommitMessage j 1 (seqOf a.closed))) := by
  have hlog := hst.toLogOk
  have hentry := hlog.entries _ _ hp
  have hcollector' : collectorOf log a.closed = i := by rw [collectorOf_eq hp, hcollector]
  have hsends : ∀ k < d.conf.numSL b, sent (b, i) (v.countLast (d.conf.ofSL b i) p.copy
      (a.votes a.closed).length (source b i j)
      (partialCommitMessage j 1 (seqOf a.closed))).trace.sends (b, k)
        = sent (b, i) v.trace.sends (b, k) + {fullCommitAt b k a.closed i} := fun k hk => by
    rw [← sent_fullCommit hentry hk]
    exact sent_append _ _
  refine { hlog.count hj hp hcollector hopen with
    trace_self := ?_
    live_self := hst.live_self.count_last hlog hp hi hopen hlast _ _ _
    flight_self := ?_
    trace_others := fun k hk hki => (hst.trace_others k hk hki).count_other hlog (by
      rw [hcollector']; exact hki.symm)
    live_others := fun k hk hki hcrashed =>
      (hst.live_others k hk hki hcrashed).count_other hlog hk (by
        rw [hcollector']; exact hki.symm)
    flight_others := ?_
    sends_local := ?_ }
  · have h := hst.trace_self.count_last (j := j) hlog hcollector' hlast
    show NodeTrace b _ i _ log (v.trace.events ++ [.counted _ _ p.view p.seq,
      .sentFullCommit (fullCommitMessage i p.view p.seq) ((a.votes a.closed).length + 1)])
    rw [hentry.view, hentry.seq, hlast]
    exact h
  · rw [hsends i hi, ← add_assoc]
    exact hst.flight_self.count_last hlog hj Staged.others_self (hst.votes_self hp hcollector hj)
      hcollector' hi hlast
  · intro k hk hki
    rw [hsends k hk, ← add_assoc]
    exact (hst.flight_others k hk hki).count_last hlog hj (fun _ _ => rfl)
      (hst.votes_other hp hcollector hk hki) hcollector' hk hlast
  · intro e he
    rcases List.mem_append.mp he with he | he
    · exact hst.sends_local e he
    · rw [List.mem_singleton] at he
      rw [he]
      exact localTo_broadcast

end StagedCount

/-! ## Committing -/

theorem NodeTrace.commit {events : List Event} (h : NodeTrace b n i a log events)
    (hp : log[a.com i]? = some p) :
    NodeTrace b n i (a.commit i) log (events ++ [.committed p.copy]) where
  issued := by
    rw [issuedOf_append]
    exact (List.append_nil _).trans h.issued
  accepted := by
    rw [acceptedOf_append]
    exact (List.append_nil _).trans h.accepted
  committed := by
    rw [a.commit_com, if_pos rfl, List.take_add_one, hp, Option.toList_some, List.map_append,
      ← h.committed]
    exact committedOf_append ..
  counted := by
    rw [countedOf_append]
    exact (List.append_nil _).trans h.counted
  sent := by
    rw [sentFullCommitOf_append]
    exact (List.append_nil _).trans h.sent

section Commit

variable {c : Nat} (hst : Staged d σ b i (fullCommitAt b i (a.com i) c ::ₘ rest) a log v)
  (hi : i < d.conf.numSL b) (hlt : a.com i < a.closed) (hp : log[a.com i]? = some p)

include hst hi hlt hp

/-- A commit, in whatever state it leaves the SL. -/
theorem Staged.commit_of_live {v' : Round2View}
    (hlive : NodeLive (d.conf.numSL b) i (a.commit i) log v')
    (htrace : v'.trace = (v.commit p.copy).trace) :
    Staged d σ b i rest (a.commit i) log v' := by
  have hlock := hst.lock
  obtain ⟨hacc, hclosed⟩ := hlock.closed_of_lt hi hlt
  have hcomself : (a.commit i).com i = a.com i + 1 := by rw [a.commit_com, if_pos rfl]
  have hcomother : ∀ j, j ≠ i → (a.commit i).com j = a.com j := fun j hj => by
    rw [a.commit_com, if_neg hj]
  have hflight := hst.flight_self
  rw [Staged.cons_assoc] at hflight
  have hne : ∀ t, t ≠ MessageType.round2FullCommit →
      ofType t (rest + ↑v.trace.juggled + sent (b, i) v.trace.sends (b, i))
        = ofType t (fullCommitAt b i (a.com i) c ::ₘ
          (rest + ↑v.trace.juggled + sent (b, i) v.trace.sends (b, i))) := fun t ht =>
    (ofType_cons_of_ne (fun h => ht h.symm) _).symm
  refine {
    lock := hlock.commit hi hlt
    len := hst.len
    short := hst.short
    collected := hst.collected
    entries := hst.entries
    trace_self := ?_
    live_self := hlive
    flight_self := ?_
    trace_others := fun j hj hji =>
      (hst.trace_others j hj hji).congr rfl (hcomother j hji) rfl rfl
    live_others := fun j hj hji hcrashed => (hst.live_others j hj hji hcrashed).congr rfl
      (hcomother j hji) (fun _ => ⟨rfl, rfl⟩) (hlock.com_le_closed j hj) (Nat.le_refl _)
    flight_others := ?_
    sends_local := by rw [htrace]; exact hst.sends_local }
  · rw [htrace]
    exact hst.trace_self.commit hp
  · rw [htrace]
    have hfull := hflight.fullCommit
    rw [if_pos hlt, ofType_cons_self (msgType_fullCommitAt ..)] at hfull
    refine {
      preprepare := (hne _ (by decide)).trans hflight.preprepare
      partialCommit := (hne _ (by decide)).trans hflight.partialCommit
      fullCommit := ?_
      empty := fun e he => hflight.empty e (hne .empty (by decide) ▸ he) }
    have hall : ¬ a.com i + 1 < (a.commit i).closed := by
      show ¬ a.com i + 1 < a.closed
      omega
    rw [hcomself, if_neg hall]
    have hcard := congrArg Multiset.card hfull
    rw [Multiset.card_cons, Multiset.card_singleton] at hcard
    exact Multiset.card_eq_zero.mp (Nat.succ_injective hcard)
  · intro j hj hji
    rw [htrace]
    have h := hst.flight_others j hj hji
    refine { h with fullCommit := ?_ }
    rw [hcomother j hji]
    exact h.fullCommit

/-- A check failed later on: the SL has committed but stays where it is. -/
theorem Staged.commit : Staged d σ b i rest (a.commit i) log (v.commit p.copy) := by
  obtain ⟨hacc, hclosed⟩ := hst.lock.closed_of_lt hi hlt
  have hcom : (a.commit i).com i = a.com i + 1 := by rw [a.commit_com, if_pos rfl]
  have hlive := hst.live_self
  refine hst.commit_of_live hi hlt hp ⟨hlive.nextView, hlive.nextSeq, hlive.collectorRr, ?_⟩ rfl
  refine .stuck p (a.com i) hcom hp ?_ rfl
  rw [hcom]
  exact hacc.trans hclosed

/-- The SL has committed and waits for the next Preprepare; the leader is idle. -/
theorem Staged.commit_clear : Staged d σ b i rest (a.commit i) log (v.commit p.copy).clear := by
  obtain ⟨hacc, hclosed⟩ := hst.lock.closed_of_lt hi hlt
  have hcom : (a.commit i).com i = a.com i + 1 := by rw [a.commit_com, if_pos rfl]
  have hlive := hst.live_self
  refine hst.commit_of_live hi hlt hp ⟨hlive.nextView, hlive.nextSeq, hlive.collectorRr, ?_⟩ rfl
  refine .ready ?_ rfl (Or.inl rfl) fun h0 => ?_
  · rw [hcom]
    exact hacc.trans hclosed
  · subst h0
    have h1 := hst.lock.acc_le_len 0 hi
    have h2 := hst.lock.len_le_com
    have h3 := hst.len
    refine ⟨fun _ => ?_, fun _ => rfl⟩
    omega

end Commit

/-! ## Issuing a Preprepare -/

theorem nextRoundRobin_lt {rr : UInt16} (h : rr.toNat < n) : (nextRoundRobin n rr).toNat < n := by
  unfold nextRoundRobin
  split
  · exact Nat.lt_of_le_of_lt (Nat.zero_le _) h
  · next hne =>
    have hle : (rr + 1).toNat ≤ rr.toNat + 1 := by
      rw [UInt16.toNat_add]
      exact Nat.mod_le _ _
    omega

/-- The leader is idle when all SLs have accepted the whole log. -/
structure Idle (n : Nat) (a : LockStep.State) (log : List MessageRound2Preprepare) : Prop where
  acc : ∀ j < n, a.acc j = log.length
  closed : a.closed = log.length
  votes : a.votes a.closed = []

theorem LogOk.idle (h : LogOk n a log) (hn : 0 < n) (hidle : a.com 0 = log.length) :
    Idle n a log := by
  have hlen := h.len
  have hcom := h.lock.com_le_closed 0 hn
  have hacc0 := h.lock.acc_le_len 0 hn
  have hclosed0 := h.lock.closed_le_acc 0 hn
  have hacc : ∀ j < n, a.acc j = log.length := fun j hj => by
    have := h.lock.closed_le_acc j hj
    have := h.lock.acc_le_len j hj
    omega
  refine ⟨hacc, by omega, List.eq_nil_iff_forall_not_mem.mpr fun j hj => ?_⟩
  obtain ⟨hjn, hjacc⟩ := h.lock.votes_acc _ j hj
  have := hacc j hjn
  omega

theorem LogOk.propose (h : LogOk n a log) (hn : 0 < n) (hidle : a.com 0 = log.length)
    (hp : EntryOk n log.length p) : LogOk n a.propose (log ++ [p]) := by
  have hall := h.idle hn hidle
  refine {
    lock := h.lock.propose hn (by rw [h.len]; exact hidle)
    len := ?_
    short := h.short
    collected := fun hvotes => absurd hall.votes hvotes
    entries := ?_ }
  · rw [List.length_append, List.length_singleton, ← h.len]
    rfl
  · intro k q hq
    rcases Nat.lt_or_ge k log.length with hk | hk
    · rw [List.getElem?_append_left hk] at hq
      exact h.entries k q hq
    · rw [List.getElem?_append_right hk] at hq
      obtain ⟨hk', hq⟩ := List.getElem?_eq_some_iff.mp hq
      have hk'' : k = log.length := by
        rw [List.length_singleton] at hk'
        omega
      subst hk''
      rw [← hq]
      simpa using hp

section Propose

variable (hlog : LogOk n a log) (hidle : a.com 0 = log.length)

include hlog hidle

/-- The votes so far are for entries that were there before. -/
theorem counted_propose (hn : 0 < n) (i : Nat) :
    (List.range (a.closed + 1)).flatMap (countedAt b i a (log ++ [p]))
      = (List.range (a.closed + 1)).flatMap (countedAt b i a log) := by
  have hall := hlog.idle hn hidle
  refine List.flatMap_congr fun k hk => ?_
  have hk : k < a.closed + 1 := List.mem_range.mp hk
  unfold countedAt
  rcases Nat.lt_or_ge k log.length with h | h
  · rw [collectorOf_append h]
  · have hkc : k = a.closed := by
      have := hall.closed
      omega
    rw [hkc, hall.votes, List.map_nil, ite_self, ite_self]

theorem sent_propose (hn : 0 < n) (i : Nat) :
    (List.range a.closed).filter (fun k => collectorOf (log ++ [p]) k = i)
      = (List.range a.closed).filter (fun k => collectorOf log k = i) := by
  refine List.filter_congr fun k hk => ?_
  have hk : k < a.closed := List.mem_range.mp hk
  rw [(hlog.idle hn hidle).closed] at hk
  rw [collectorOf_append hk]

theorem NodeTrace.propose_other {events : List Event} (h : NodeTrace b n j a log events)
    (hj : j < n) (hj0 : j ≠ 0) : NodeTrace b n j a.propose (log ++ [p]) events where
  issued := by rw [h.issued, if_neg hj0, if_neg hj0]
  accepted := by
    refine h.accepted.trans ?_
    rw [← List.take_append_of_le_length ((hlog.idle (by omega) hidle).acc j hj).le]
    rfl
  committed := by
    refine h.committed.trans ?_
    have hle := hlog.lock.com_le_len hj
    rw [hlog.len] at hle
    rw [← List.take_append_of_le_length hle]
    rfl
  counted := h.counted.trans (counted_propose hlog hidle (by omega) j).symm
  sent := h.sent.trans (congrArg _ (sent_propose hlog hidle (by omega) j).symm)

theorem NodeTrace.propose {events : List Event} (h : NodeTrace b n 0 a log events) (hn : 0 < n) :
    NodeTrace b n 0 a.propose (log ++ [p]) (events ++ [.issued p]) where
  issued := by
    rw [issuedOf_append, h.issued, if_pos rfl, if_pos rfl]
    rfl
  accepted := by
    rw [acceptedOf_append]
    refine (List.append_nil _).trans (h.accepted.trans ?_)
    rw [← List.take_append_of_le_length ((hlog.idle hn hidle).acc 0 hn).le]
    rfl
  committed := by
    rw [committedOf_append]
    refine (List.append_nil _).trans (h.committed.trans ?_)
    rw [← List.take_append_of_le_length hidle.le]
    rfl
  counted := by
    rw [countedOf_append]
    exact (List.append_nil _).trans (h.counted.trans (counted_propose hlog hidle hn 0).symm)
  sent := by
    rw [sentFullCommitOf_append]
    exact (List.append_nil _).trans
      (h.sent.trans (congrArg _ (sent_propose hlog hidle hn 0).symm))

omit hlog hidle in
theorem NodeLive.propose_other (h : NodeLive n j a log v) (hj0 : j ≠ 0) :
    NodeLive n j a.propose (log ++ [p]) v := by
  obtain ⟨hview, hseq, hrr, hphase⟩ := h
  have hget : ∀ {k : Nat} {q : MessageRound2Preprepare}, log[k]? = some q →
      (log ++ [p])[k]? = some q := fun hq => by
    rw [List.getElem?_append_left (List.getElem?_eq_some_iff.mp hq).1, hq]
  refine ⟨hview, ?_, hrr, ?_⟩
  · rw [if_neg hj0] at hseq ⊢
    exact hseq
  · cases hphase with
    | ready hacc hstored hstatus hleader =>
      exact .ready hacc hstored hstatus fun h0 => absurd h0 hj0
    | active q hq hacc hstored hcollector hstatus =>
      exact .active q (hget hq) hacc hstored hcollector hstatus
    | stuck q k hk hq hacc hstatus => exact .stuck q k hk (hget hq) hacc hstatus

omit hlog in
theorem NodeLive.propose {conf : Config} (h : NodeLive n 0 a log v)
    (hconf : conf.numSL conf.bGid = n) (hstatus : v.status = none) :
    NodeLive n 0 a.propose (log ++ [p])
      ({ v with status := some .waitingForPreprepare }.propose conf p) := by
  obtain ⟨hview, hseq, hrr, hphase⟩ := h
  refine ⟨hview, ?_, ?_, ?_⟩
  · rw [if_pos rfl] at hseq ⊢
    rw [List.length_append, List.length_singleton, seqOf_succ, ← hseq]
    rfl
  · show (nextRoundRobin (conf.numSL conf.bGid) v.collectorRr).toNat < n
    rw [hconf]
    exact nextRoundRobin_lt hrr
  · cases hphase with
    | ready hacc hstored _ _ =>
      refine .ready hacc hstored (Or.inr rfl) fun _ => ⟨fun hnone => ?_, fun hcom => ?_⟩
      · exact absurd hnone (by simp [Round2View.propose])
      · have hcom : a.com 0 = (log ++ [p]).length := hcom
        rw [List.length_append, List.length_singleton] at hcom
        omega
    | active q hq hacc hstored hcollector hst => rw [hstatus] at hst; exact absurd hst (by simp)
    | stuck q k hk hq hacc hst => rw [hstatus] at hst; exact absurd hst (by simp)

theorem InFlight.propose {conf : Config} (h : InFlight b n j a log l) (hj : j < n)
    (hconf : conf.numSL b = n) :
    InFlight b n j a.propose (log ++ [p])
      (l + sent (b, 0) [{ upPeers := broadcastPeers (conf.ofSL b 0)
                          pMessage := .round2Preprepare p }] (b, j)) := by
  have hall := hlog.idle (by omega) hidle
  have hopen : openVotes n a.propose = ∅ := by
    rw [Finset.eq_empty_iff_forall_notMem]
    intro k hk
    obtain ⟨hkn, hkacc, -⟩ := Finset.mem_filter.mp hk
    have hkacc : a.closed < a.acc k := hkacc
    have := hall.acc k (Finset.mem_range.mp hkn)
    have := hall.closed
    omega
  have hopen' : openVotes n a = ∅ := hopen
  rw [sent_broadcast (hconf ▸ hj)]
  have hzero : ∀ t, t ≠ MessageType.round2Preprepare → ofType t {preprepareAt b j p} = 0 :=
    fun t ht => ofType_eq_zero fun e he => by
      rw [Multiset.mem_singleton] at he
      rw [he, msgType_preprepareAt]
      exact ht.symm
  show InFlight b n j a.propose (log ++ [p]) (l + {preprepareAt b j p})
  refine {
    preprepare := ?_
    partialCommit := ?_
    fullCommit := ?_
    empty := fun e he => ?_ }
  · show _ = (↑(((log ++ [p]).drop (a.acc j)).map (preprepareAt b j)) : Multiset QueueElement)
    rw [ofType_add, h.preprepare, hall.acc j hj, List.drop_length, List.drop_left,
      ofType_singleton_self (msgType_preprepareAt ..)]
    rfl
  · rw [ofType_add, hzero _ (by decide), add_zero, h.partialCommit, hopen, hopen']
    simp
  · rw [ofType_add, hzero _ (by decide), add_zero, h.fullCommit]
    show _ = if a.com j < a.closed then _ else _
    by_cases hlt : a.com j < a.closed
    · have hlt' : a.com j < log.length := by rw [← hall.closed]; exact hlt
      rw [if_pos hlt, if_pos hlt, ← collectorOf_append hlt']
      rfl
    · rw [if_neg hlt, if_neg hlt]
  · rw [ofType_add, hzero _ (by decide), add_zero] at he
    exact h.empty e he

end Propose

/-- The leader issues the next Preprepare. -/
theorem Staged.propose (hst : Staged d σ b 0 rest a log v) (hn : 0 < d.conf.numSL b)
    (hstatus : v.status = none) (hversion : p.header.version = versionLatest) :
    a.com 0 = log.length ∧ Staged d σ b 0 rest a.propose (log ++ [v.number p])
      ({ v with status := some .waitingForPreprepare }.propose (d.conf.ofSL b 0) (v.number p)) := by
  have hlive := hst.live_self
  have hidle : a.com 0 = log.length := by
    cases hlive.phase with
    | ready hacc hstored hst hleader => exact (hleader rfl).mp hstatus
    | active q hq hacc hstored hcollector hst => rw [hstatus] at hst; exact absurd hst (by simp)
    | stuck q k hk hq hacc hst => rw [hstatus] at hst; exact absurd hst (by simp)
  have hentry : EntryOk (d.conf.numSL b) log.length (v.number p) :=
    ⟨hversion, hlive.nextView, hlive.nextSeq, hlive.collectorRr⟩
  have hlog := hst.toLogOk
  have hsends : ∀ j, sent (b, 0) ({ v with status := some .waitingForPreprepare }.propose
      (d.conf.ofSL b 0) (v.number p)).trace.sends (b, j)
        = sent (b, 0) v.trace.sends (b, j)
          + sent (b, 0) [{ upPeers := broadcastPeers (d.conf.ofSL b 0)
                           pMessage := .round2Preprepare (v.number p) }] (b, j) := fun j =>
    sent_append _ _
  refine ⟨hidle, { hlog.propose hn hidle hentry with
    trace_self := hst.trace_self.propose hlog hidle hn
    live_self := hlive.propose hidle rfl hstatus
    flight_self := ?_
    trace_others := fun j hj hj0 => (hst.trace_others j hj hj0).propose_other hlog hidle hj hj0
    live_others := fun j hj hj0 hcrashed => (hst.live_others j hj hj0 hcrashed).propose_other hj0
    flight_others := ?_
    sends_local := ?_ }⟩
  · rw [hsends, ← add_assoc]
    exact hst.flight_self.propose hlog hidle hn rfl
  · intro j hj hj0
    rw [hsends, ← add_assoc]
    exact (hst.flight_others j hj hj0).propose hlog hidle hj rfl
  · intro e he
    rcases List.mem_append.mp he with he | he
    · exact hst.sends_local e he
    · rw [List.mem_singleton] at he
      rw [he]
      exact localTo_broadcast

end RCanopus
