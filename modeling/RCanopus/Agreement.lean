import RCanopus.Round2Run

/-!
# Agreement inside a BG

The logs of the SLs of a BG and the certificates of their full commits, read off the invariant of
round 2.
-/

namespace RCanopus

/-- The bytes of a Preprepare that `getMessageSize` counts. -/
def MessageRound2Preprepare.sentBytes (h : Endian) (p : MessageRound2Preprepare) : List UInt8 :=
  (p.bytes h).take p.header.getMessageSize

/-- A copy has the bytes that `getMessageSize` counts. -/
theorem MessageRound2Preprepare.sentBytes_copy (h : Endian) (p : MessageRound2Preprepare) :
    p.copy.sentBytes h = p.sentBytes h := by
  unfold sentBytes MessageRound2Preprepare.bytes
  have hlen : (p.header.bytes h .round2Preprepare ++ p.fixedBytes h).length
      = sizeofMessageRound2Preprepare := by
    simp [fixedBytes, length_u16Bytes, sizeofMessageHeader, sizeofMessageRound2Preprepare]
  have htake : ∀ content : List UInt8,
      (p.header.bytes h .round2Preprepare ++ p.fixedBytes h ++ content).take
          p.header.getMessageSize
        = (p.header.bytes h .round2Preprepare ++ p.fixedBytes h).take p.header.getMessageSize
          ++ content.take (p.header.getMessageSize - sizeofMessageRound2Preprepare) :=
    fun content => by rw [List.take_append, hlen]
  have hcopy : p.copy.participantsAndContent = p.participantsAndContent.take
      (p.header.getMessageSize - sizeofMessageRound2Preprepare) := rfl
  refine (htake _).trans ?_
  rw [htake, hcopy, List.take_take, Nat.min_self]

namespace Cluster

variable {d : Deployment} {σ : Cluster} {b i j : Nat} {a : LockStep.State}
  {log : List MessageRound2Preprepare}

/-! ## The logs -/

/-- The Preprepares that the leader of a BG issued. -/
def issued (σ : Cluster) (bg : Nat) : List MessageRound2Preprepare :=
  issuedOf (σ (bg, 0)).sl.history

/-- The Preprepares that an SL accepted. -/
def accepted (σ : Cluster) (x : Peer) : List MessageRound2Preprepare :=
  acceptedOf (σ x).sl.history

/-- The Preprepares that an SL committed. -/
def committed (σ : Cluster) (x : Peer) : List MessageRound2Preprepare :=
  committedOf (σ x).sl.history

/-- The full commits that an SL broadcast, each with the counter at that moment. -/
def fullCommits (σ : Cluster) (x : Peer) : List (MessageRound2FullCommit × Nat) :=
  sentFullCommitOf (σ x).sl.history

theorem issued_eq (hinv : Round2Inv d σ b a log) (hn : 0 < d.conf.numSL b) : issued σ b = log := by
  have h := (hinv.trace 0 hn).issued
  rw [if_pos rfl] at h
  exact (issuedOf_round2 _).symm.trans h

theorem accepted_eq (hinv : Round2Inv d σ b a log) (hi : i < d.conf.numSL b) :
    accepted σ (b, i) = (log.take (a.acc i)).map MessageRound2Preprepare.copy :=
  (acceptedOf_round2 _).symm.trans (hinv.trace i hi).accepted

theorem committed_eq (hinv : Round2Inv d σ b a log) (hi : i < d.conf.numSL b) :
    committed σ (b, i) = (log.take (a.com i)).map MessageRound2Preprepare.copy :=
  (committedOf_round2 _).symm.trans (hinv.trace i hi).committed

theorem length_committed (hinv : Round2Inv d σ b a log) (hi : i < d.conf.numSL b) :
    (committed σ (b, i)).length = a.com i := by
  have h := hinv.lock.com_le_len hi
  rw [hinv.len] at h
  rw [committed_eq hinv hi, List.length_map, List.length_take, Nat.min_eq_left h]

/-- The invariant at the BG of an SL. -/
theorem round2Inv_of_reachable (h : Reachable d σ) (hx : d.Has (b, i)) :
    ∃ a log, Round2Inv d σ b a log :=
  round2Ok_of_reachable h b (Nat.lt_of_le_of_lt (Nat.zero_le i) hx.2)

/-- Entries of the log have different sequence numbers. -/
theorem seqOf_injective {j k : Nat} (hj : j < 65535) (hk : k < 65535) (h : seqOf j = seqOf k) :
    j = k := by
  rcases Nat.lt_trichotomy j k with hlt | heq | hlt
  · exact absurd h (UInt16.ne_of_lt (seqOf_lt hlt hk))
  · exact heq
  · exact absurd h.symm (UInt16.ne_of_lt (seqOf_lt hlt hj))

theorem map_seq_eq {n : Nat} (hlog : LogOk n a log) :
    log.map (·.seq) = (List.range log.length).map seqOf := by
  refine List.ext_getElem (by simp) fun k h1 h2 => ?_
  rw [List.getElem_map, List.getElem_map, List.getElem_range]
  have hk : k < log.length := by simpa using h1
  exact (hlog.entries k _ (List.getElem?_eq_getElem hk)).seq

theorem length_le {n : Nat} (hlog : LogOk n a log) (hn : 0 < n) : log.length ≤ 65535 := by
  have h1 := hlog.lock.len_le_com
  have h2 := hlog.lock.com_le_acc 0 hn
  have h3 := hlog.short
  have h4 := hlog.len
  omega

theorem nodup_seq {n : Nat} (hlog : LogOk n a log) (hn : 0 < n) : (log.map (·.seq)).Nodup := by
  rw [map_seq_eq hlog]
  refine List.Nodup.map_on (fun j hj k hk h => ?_) List.nodup_range
  have hj : j < log.length := List.mem_range.mp hj
  have hk : k < log.length := List.mem_range.mp hk
  have hle := length_le hlog hn
  exact seqOf_injective (by omega) (by omega) h

theorem nodup_committed (hinv : Round2Inv d σ b a log) (hi : i < d.conf.numSL b) :
    (committed σ (b, i)).Nodup := by
  have hn : 0 < d.conf.numSL b := Nat.lt_of_le_of_lt (Nat.zero_le i) hi
  refine List.Nodup.of_map (fun p : MessageRound2Preprepare => p.seq) ?_
  rw [committed_eq hinv hi, List.map_map]
  have h : ((log.take (a.com i)).map (·.seq)).Nodup := by
    rw [List.map_take]
    exact (nodup_seq hinv.toLogOk hn).sublist (List.take_sublist _ _)
  exact h

/-! ## Certificates -/

/-- The partial commits that an SL counted towards a view and a sequence number. -/
def countedFor (σ : Cluster) (x : Peer) (view seq : UInt16) :
    List (Option Peer × MessageRound2PartialCommit) :=
  (countedOf (σ x).sl.history).filterMap fun v =>
    if v.2.2.1 = view ∧ v.2.2.2 = seq then some (v.1, v.2.1) else none

/--
What stands behind a full commit of SL `i` that it sent when its counter had a value: `voters` are
different SLs, as many as the counter says and all of the BG, which have accepted the Preprepare,
and theirs are the partial commits that were counted.
-/
structure Certificate (d : Deployment) (σ : Cluster) (b i : Nat) (m : MessageRound2FullCommit)
    (counter : Nat) (voters : List Nat) : Prop where
  collector : ∃ p ∈ issued σ b, p.view = m.view ∧ p.seq = m.seq ∧ p.collectorSLid.toNat = i
  all : counter = d.conf.numSL b
  length : voters.length = counter
  distinct : voters.Nodup
  accepted : ∀ j ∈ voters, j < d.conf.numSL b
    ∧ ∃ p ∈ accepted σ (b, j), p.view = m.view ∧ p.seq = m.seq
  counted : countedFor σ (b, i) m.view m.seq
    = voters.map fun j => (source b i j, partialCommitMessage j m.view m.seq)

theorem flatMap_range_single {α : Type} (f : Nat → List α) {k m : Nat} (hk : k < m)
    (hf : ∀ j < m, j ≠ k → f j = []) : (List.range m).flatMap f = f k := by
  induction m with
  | zero => exact absurd hk (Nat.not_lt_zero k)
  | succ m ih =>
    rw [List.range_succ, List.flatMap_append, List.flatMap_singleton]
    rcases Nat.lt_or_ge k m with h | h
    · rw [ih h fun j hj => hf j (by omega), hf m (by omega) (by omega), List.append_nil]
    · have hkm : k = m := by omega
      have hnil : (List.range m).flatMap f = [] := by
        rw [List.flatMap_eq_nil_iff]
        intro j hj
        have : j < m := List.mem_range.mp hj
        exact hf j (by omega) (by omega)
      rw [hnil, hkm, List.nil_append]

/-- The partial commits for entry `k` are the votes for it, counted by its collector. -/
theorem countedFor_eq (hinv : Round2Inv d σ b a log) (hi : i < d.conf.numSL b) {k : Nat}
    (hk : k ≤ a.closed) (hcollector : collectorOf log k = i) :
    countedFor σ (b, i) 1 (seqOf k)
      = (a.votes k).map fun j => (source b i j, partialCommitMessage j 1 (seqOf k)) := by
  have hn : 0 < d.conf.numSL b := Nat.lt_of_le_of_lt (Nat.zero_le i) hi
  have hshort : a.closed < 65535 := Nat.lt_of_le_of_lt (hinv.lock.closed_le_acc 0 hn) hinv.short
  have hcounted := (countedOf_round2 _).symm.trans (hinv.trace i hi).counted
  unfold countedFor
  rw [hcounted, List.filterMap_flatMap, flatMap_range_single _ (Nat.lt_succ_of_le hk)]
  · unfold countedAt countedVote
    rw [if_pos hcollector, List.filterMap_map]
    simp
  · intro k' hk' hne
    unfold countedAt countedVote
    split
    · rw [List.filterMap_map, List.filterMap_eq_nil_iff]
      intro j _
      refine if_neg fun h => hne ?_
      exact seqOf_injective (by omega) (by omega) h.2
    · rfl

theorem source_injective {i j k : Nat} (h : source b i j = source b i k) : j = k := by
  unfold source at h
  split at h <;> split at h <;> simp_all

theorem nodup_votes {k : Nat} (hinv : Round2Inv d σ b a log) (i : Nat) :
    ((a.votes k).map fun j => (source b i j, partialCommitMessage j 1 (seqOf k))).Nodup :=
  (hinv.lock.votes_nodup k).map fun _ _ h => source_injective (congrArg Prod.fst h)

/-- Every full commit has a certificate. -/
theorem certificate_of_mem (hinv : Round2Inv d σ b a log) (hi : i < d.conf.numSL b)
    {m : MessageRound2FullCommit} {counter : Nat} (hm : (m, counter) ∈ fullCommits σ (b, i)) :
    ∃ voters, Certificate d σ b i m counter voters := by
  have hn : 0 < d.conf.numSL b := Nat.lt_of_le_of_lt (Nat.zero_le i) hi
  have hsent := (sentFullCommitOf_round2 _).symm.trans (hinv.trace i hi).sent
  unfold fullCommits at hm
  rw [hsent] at hm
  obtain ⟨k, hk, heq⟩ := List.mem_map.mp hm
  obtain ⟨hk, hcollector⟩ := List.mem_filter.mp hk
  have hk : k < a.closed := List.mem_range.mp hk
  have hcollector := of_decide_eq_true hcollector
  obtain ⟨rfl, rfl⟩ := Prod.mk.inj heq.symm
  have hklog : k < log.length := by
    have h1 := hinv.lock.closed_le_acc 0 hn
    have h2 := hinv.lock.acc_le_len 0 hn
    have h3 := hinv.len
    omega
  have hget := List.getElem?_eq_getElem hklog
  have hentry := hinv.entries k _ hget
  refine ⟨a.votes k, ?_⟩
  exact {
    collector := by
      refine ⟨log[k], ?_, hentry.view, hentry.seq, ?_⟩
      · rw [issued_eq hinv hn]
        exact List.getElem_mem hklog
      · rw [← collectorOf_eq hget, hcollector]
    all := rfl
    length := hinv.lock.votes_full k hk
    distinct := hinv.lock.votes_nodup k
    accepted := fun j hj => by
      obtain ⟨hjn, hjacc⟩ := hinv.lock.votes_acc k j hj
      refine ⟨hjn, log[k].copy, ?_, hentry.view, hentry.seq⟩
      rw [accepted_eq hinv hjn]
      refine List.mem_map_of_mem (List.mem_take_iff_getElem.mpr ⟨k, ?_, rfl⟩)
      omega
    counted := countedFor_eq hinv hi (Nat.le_of_lt hk) hcollector }

/-- An SL broadcasts at most one full commit for a sequence number. -/
theorem nodup_fullCommits (hinv : Round2Inv d σ b a log) (hi : i < d.conf.numSL b) :
    ((fullCommits σ (b, i)).map fun fc => fc.1.seq).Nodup := by
  have hn : 0 < d.conf.numSL b := Nat.lt_of_le_of_lt (Nat.zero_le i) hi
  have hshort : a.closed < 65535 := Nat.lt_of_le_of_lt (hinv.lock.closed_le_acc 0 hn) hinv.short
  have hsent := (sentFullCommitOf_round2 _).symm.trans (hinv.trace i hi).sent
  unfold fullCommits
  rw [hsent, List.map_map]
  refine List.Nodup.map_on (fun j hj k hk h => ?_) (List.nodup_range.filter _)
  have hj : j < a.closed := List.mem_range.mp (List.mem_filter.mp hj).1
  have hk : k < a.closed := List.mem_range.mp (List.mem_filter.mp hk).1
  exact seqOf_injective (by omega) (by omega) h

/-- Two Preprepares of a leader with one sequence number are the same. -/
theorem eq_of_seq_eq (hinv : Round2Inv d σ b a log) (hn : 0 < d.conf.numSL b)
    {p q : MessageRound2Preprepare} (hp : p ∈ issued σ b) (hq : q ∈ issued σ b)
    (h : p.seq = q.seq) : p = q := by
  rw [issued_eq hinv hn] at hp hq
  exact List.inj_on_of_nodup_map (nodup_seq hinv.toLogOk hn) hp hq h

/-- What was counted was for the round that was collected. -/
theorem counted_for_round (hinv : Round2Inv d σ b a log) (hi : i < d.conf.numSL b) :
    ∀ v ∈ countedOf (σ (b, i)).sl.history, v.2.1.view = v.2.2.1 ∧ v.2.1.seq = v.2.2.2 := by
  intro v hv
  rw [(countedOf_round2 _).symm.trans (hinv.trace i hi).counted] at hv
  obtain ⟨k, -, hk⟩ := List.mem_flatMap.mp hv
  unfold countedAt at hk
  split at hk
  · obtain ⟨j, -, rfl⟩ := List.mem_map.mp hk
    exact ⟨rfl, rfl⟩
  · exact absurd hk List.not_mem_nil

/-- The partial commit of SL `j` for a Preprepare, as it arrives at SL `i`. -/
def partialCommitOf (b i j : Nat) (p : MessageRound2Preprepare) : QueueElement where
  upPeers := [source b i j]
  pMessage := .round2PartialCommit (partialCommitMessage j p.view p.seq)

/-- The votes that wait at SL `i`. -/
theorem count_pool (hinv : Round2Inv d σ b a log) (hi : i < d.conf.numSL b)
    {p : MessageRound2Preprepare} {k : Nat} (hp : EntryOk (d.conf.numSL b) k p)
    (hk : k ≤ a.closed) (hcollector : collectorOf log k = i) :
    (pool σ (b, i)).count (partialCommitOf b i j p)
      = if k = a.closed ∧ j ∈ openVotes (d.conf.numSL b) a then 1 else 0 := by
  have hn : 0 < d.conf.numSL b := Nat.lt_of_le_of_lt (Nat.zero_le i) hi
  have hshort : a.closed < 65535 := Nat.lt_of_le_of_lt (hinv.lock.closed_le_acc 0 hn) hinv.short
  have hvote : partialCommitOf b i j p = voteAt b i k j := by
    unfold partialCommitOf voteAt
    rw [hp.view, hp.seq]
  have hfilter : (pool σ (b, i)).count (voteAt b i k j)
      = (ofType .round2PartialCommit (pool σ (b, i))).count (voteAt b i k j) := by
    unfold ofType
    rw [Multiset.count_filter, if_pos (msgType_voteAt ..)]
  have hinj : ∀ j', voteAt b i a.closed j' = voteAt b i k j → j' = j ∧ a.closed = k :=
    fun j' h => by
      unfold voteAt at h
      rw [QueueElement.mk.injEq] at h
      refine ⟨source_injective (List.singleton_injective h.1), ?_⟩
      have hm := Message.round2PartialCommit.inj h.2
      exact seqOf_injective (by omega) (by omega)
        (congrArg MessageRound2PartialCommit.seq hm)
  rw [hvote, hfilter, (hinv.flight i hi).partialCommit]
  by_cases hopen : k = a.closed ∧ j ∈ openVotes (d.conf.numSL b) a
  · obtain ⟨rfl, hj⟩ := hopen
    rw [if_pos hcollector, if_pos ⟨rfl, hj⟩]
    refine Multiset.count_eq_one_of_mem ?_ (Multiset.mem_map_of_mem _ hj)
    exact Multiset.Nodup.map (fun x y hxy => source_injective (b := b) (i := i)
      (List.singleton_injective (congrArg QueueElement.upPeers hxy))) (Finset.nodup _)
  · rw [if_neg hopen]
    refine Multiset.count_eq_zero_of_notMem fun hmem => ?_
    split at hmem
    · obtain ⟨j', hj', heq⟩ := Multiset.mem_map.mp hmem
      obtain ⟨rfl, hck⟩ := hinj j' heq
      exact hopen ⟨hck.symm, hj'⟩
    · exact absurd hmem (Multiset.notMem_zero _)

/-- The partial commit that answers an accepted Preprepare was counted, or it waits. -/
theorem counted_or_waits (hinv : Round2Inv d σ b a log) (hj : j < d.conf.numSL b)
    {p : MessageRound2Preprepare} (hp : p ∈ accepted σ (b, j)) :
    (countedFor σ (b, p.collectorSLid.toNat) p.view p.seq).count
        (source b p.collectorSLid.toNat j, partialCommitMessage j p.view p.seq)
      + (pool σ (b, p.collectorSLid.toNat)).count
        (partialCommitOf b p.collectorSLid.toNat j p) = 1 := by
  rw [accepted_eq hinv hj] at hp
  obtain ⟨q, hq, rfl⟩ := List.mem_map.mp hp
  obtain ⟨k, hk, rfl⟩ := List.mem_take_iff_getElem.mp hq
  have hkacc : k < a.acc j := by omega
  have hklog : k < log.length := by omega
  have hget := List.getElem?_eq_getElem hklog
  have hentry := hinv.entries k _ hget
  have hkclosed : k ≤ a.closed := by
    have h1 := hinv.lock.acc_le_len j hj
    have h2 := hinv.lock.len_le_closed
    omega
  obtain ⟨i, hi⟩ : ∃ i, i = collectorOf log k := ⟨_, rfl⟩
  have hcollector : log[k].collectorSLid.toNat = i := by rw [hi, collectorOf_eq hget]
  have hin : i < d.conf.numSL b := hcollector ▸ hentry.collector
  show (countedFor σ (b, log[k].collectorSLid.toNat) log[k].view log[k].seq).count
      (source b log[k].collectorSLid.toNat j, partialCommitMessage j log[k].view log[k].seq)
    + (pool σ (b, log[k].collectorSLid.toNat)).count
      (partialCommitOf b log[k].collectorSLid.toNat j log[k]) = 1
  rw [hcollector, count_pool hinv hin hentry hkclosed hi.symm, hentry.view, hentry.seq,
    countedFor_eq hinv hin hkclosed hi.symm]
  by_cases hvoted : j ∈ a.votes k
  · rw [List.count_eq_one_of_mem (nodup_votes hinv i)
      (List.mem_map.mpr ⟨j, hvoted, rfl⟩), if_neg]
    rintro ⟨rfl, hopen⟩
    exact (Finset.mem_filter.mp hopen).2.2 hvoted
  · have hkeq : k = a.closed := by
      rcases Nat.eq_or_lt_of_le hkclosed with h | h
      · exact h
      · exact absurd (hinv.lock.mem_votes h hj) hvoted
    subst hkeq
    rw [List.count_eq_zero_of_not_mem, if_pos ⟨rfl, Finset.mem_filter.mpr
      ⟨Finset.mem_range.mpr hj, hkacc, hvoted⟩⟩]
    intro hmem
    obtain ⟨j', hj', heq⟩ := List.mem_map.mp hmem
    exact hvoted (source_injective (congrArg Prod.fst heq) ▸ hj')

end Cluster

end RCanopus
