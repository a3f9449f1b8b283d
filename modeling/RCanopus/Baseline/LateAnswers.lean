import RCanopus.Baseline.LastRound

/-!
# The results that are fetched

An answer to a request brings the Preprepare that the BG has committed, unless the cycle was erased
when the request came. Then the answer is a copy of the template, which has the size of the result
but nothing of its content.
-/

namespace RCanopus.Baseline

open Baseline.Cluster

variable {d : Deployment} {σ : Cluster} {x y : Peer} {A j : Nat} {c : UInt16}
  {p q : MessageRound2Preprepare} {r : MessageRound3FetchResponse}

/-! ## The result of a BG -/

/-- An SL of BG `A` has committed the client Preprepare `p` of cycle `c`. -/
def CommittedResult (d : Deployment) (σ : Cluster) (A : Nat) (c : UInt16)
    (p : MessageRound2Preprepare) : Prop :=
  ∃ j, d.Has (A, j) ∧ p ∈ committedOf (σ (A, j)).sl.common.history ∧ entryOf p = .client c

/-- A response carries what BG `A` has committed for cycle `c`. -/
structure TrueResult (d : Deployment) (σ : Cluster) (A : Nat) (c : UInt16)
    (r : MessageRound3FetchResponse) : Prop where
  committed : ∃ p, CommittedResult d σ A c p
  carries : ∀ p, CommittedResult d σ A c p → r.Carries (p.sentBytes d.host)

/-- Only the SLs of the configuration do anything. -/
theorem has_of_event (hreach : Reachable d σ) {ev : Event} (hev : ev ∈ (σ y).sl.history) :
    d.Has y := by
  by_contra hno
  have hnil : (σ y).sl.history = [] := by
    refine hreach.induct (P := fun σ => (σ y).sl.history = []) rfl fun σ σ' _ h hs => ?_
    rcases step_cases hs with ⟨x, e, ω, before, hd⟩ | ht
    · have hyx : y ≠ x := fun hyx => hno (hyx ▸ hd.has)
      rw [hd.result, install_sl_of_ne hyx]
      exact h
    · obtain ⟨k, hk⟩ := ht.sl_eq y
      rw [hk]
      exact h
  rw [hnil] at hev
  exact absurd hev List.not_mem_nil

/-- The SLs of a BG commit the same result. -/
theorem CommittedResult.unique (hreach : Reachable d σ) (hcore : CoreOk d σ)
    (hp : CommittedResult d σ A c p) (hq : CommittedResult d σ A c q) : p = q := by
  obtain ⟨i, hi, hp, hpc⟩ := hp
  obtain ⟨j, hj, hq, hqc⟩ := hq
  obtain ⟨p', hp', rfl⟩ := exists_issued (round2Ok_of_reachable hreach) hi hp
  obtain ⟨q', hq', rfl⟩ := exists_issued (round2Ok_of_reachable hreach) hj hq
  rw [entryOf_copy] at hpc hqc
  have hnodup : ((issuedOf (σ (A, 0)).sl.common.history).map entryOf).Nodup := by
    have hplan := (hcore.plan A).nodup
    unfold planOf at hplan
    rw [List.map_append] at hplan
    exact (List.nodup_append.mp hplan).1
  rw [List.inj_on_of_nodup_map hnodup hp' hq' (hpc.trans hqc.symm)]

/-- What an SL answers from its status or to a waiting request is the result of its BG. -/
theorem OwnAnswer.trueResult (hfits : d.conf.Fits) (hreach : Reachable d σ) (hcore : CoreOk d σ)
    (hy : d.Has y) (h : OwnAnswer d σ c y r) : TrueResult d σ y.1 c r := by
  obtain ⟨p, hp, hentry, m, rfl⟩ := h
  have hresult : CommittedResult d σ y.1 c p := ⟨y.2, hy, (List.mem_filter.mp hp).1, hentry⟩
  refine ⟨⟨p, hresult⟩, fun q hq => ?_⟩
  rw [← hresult.unique hreach hcore hq]
  obtain ⟨p', hp', rfl⟩ := exists_issued (round2Ok_of_reachable hreach) hy (List.mem_filter.mp hp).1
  rw [entryOf_copy] at hentry
  obtain ⟨ht, hc⟩ := entryOf_client.mp hentry
  have hnum := (((hcore.plan y.1).issued p' hp').client ht).1
  rw [hc] at hnum
  have hcarries := carries_getRound3Response hfits (Nat.lt_of_le_of_lt (Nat.zero_le _) hy.2) hnum m
    (UInt16.ofNat (d.env y).conf.sLid)
  rw [p'.sentBytes_copy, ownResult, show p'.copy.cycle = c from hc]
  exact hcarries

/-! ## Answers -/

/--
**The fetched results.** In every run the answers from a status or to a waiting request carry what
the BG has committed, and a late answer has the cycle, the sender and the size of it. So an SL that
has all results holds the true result of its own BG, and of any other BG a true result or a late
answer.
-/
theorem fetched_results (hfits : d.conf.Fits) (hreach : Reachable d σ) :
    (∀ y source c z r, .answered source c z r ∈ (σ y).sl.history →
        (source ≠ .template → TrueResult d σ y.1 c r)
          ∧ (source = .template → LateAnswer d c y r))
      ∧ ∀ y c status, .fetched c status ∈ (σ y).sl.history → ∀ A < d.conf.numBG,
        ∃ r, status.rgMsgRound3FetchResponse A = some r ∧ (TrueResult d σ A c r
          ∨ A ≠ y.1 ∧ ∃ j z, .answered .template c z r ∈ (σ (A, j)).sl.history) := by
  have hcore : ∀ {y ev}, ev ∈ (σ y).sl.history → CoreOk d σ := fun hev =>
    coreOk_of_reachable hfits
      (Nat.lt_of_le_of_lt (Nat.zero_le _) (has_of_event hreach hev).1) hreach
  have hevent : ∀ {y ev c}, ev ∈ (σ y).sl.history → ev.cycle = some c → EventOk d σ c y ev :=
    fun {y ev c} hev hc => by
      obtain ⟨g, hg⟩ := (hcore hev).cycles c
      exact hg.events y ev (List.mem_filter.mpr ⟨hev, decide_eq_true hc⟩)
  have hanswers : ∀ y source c z r, .answered source c z r ∈ (σ y).sl.history →
      (source ≠ .template → TrueResult d σ y.1 c r)
        ∧ (source = .template → LateAnswer d c y r) := fun y source c z r hev => by
    obtain ⟨hown, hlate⟩ := hevent hev rfl
    refine ⟨fun hsource => ?_, hlate⟩
    obtain ⟨r', hr', rfl⟩ := hown hsource
    have htrue := hr'.trueResult hfits hreach (hcore hev) (has_of_event hreach hev)
    obtain ⟨p, hp⟩ := htrue.committed
    rwa [(htrue.carries p hp).copy]
  refine ⟨hanswers, fun y c status hev A hA => ?_⟩
  obtain ⟨⟨r, hr, hown⟩, hslots⟩ := hevent hev rfl
  by_cases hne : A = y.1
  · subst hne
    exact ⟨r, hr, Or.inl (hown.trueResult hfits hreach (hcore hev) (has_of_event hreach hev))⟩
  · obtain ⟨r, hr, j, source, z, hanswered⟩ := hslots A hA hne
    have hmem : .answered source c z r ∈ (σ (A, j)).sl.history := (List.mem_filter.mp hanswered).1
    refine ⟨r, hr, ?_⟩
    by_cases hsource : source = .template
    · subst hsource
      exact Or.inr ⟨hne, j, z, hmem⟩
    · exact Or.inl ((hanswers (A, j) source c z r hmem).1 hsource)

/-! ## A late request -/

/--
The second BG commits the local connectivity of its second cycle, and its SL 1 is done, before that
SL gets the request of the first BG. The messages of a link arrive in their order; what comes from
the first BG to SL 1 is slow.
-/
def lateRun : List Label :=
  let single := turn (0, 0) 0 1
  let leader := turn (1, 0) 0 0
  let second := turn (1, 1) 0 0
  let passing := turn (1, 1) 1 0
  [.leaderTick 0, .leaderTick 0, .pipeReadable 0, .leaderTick 1, .leaderTick 1, .pipeReadable 1] ++
  repeated [(5, leader), (1, second), (3, leader), (5, second), (1, leader), (11, single),
    (4, leader), (3, second), (1, passing), (3, leader), (5, passing), (1, second)]

/-- The answer of an event for a cycle, from the given source. -/
def answerOf (source : ReplySource) (c : UInt16) :
    Event → Option ((UInt16 × UInt16) × MessageRound3FetchResponse)
  | .answered source' c' z r => if source' = source ∧ c' = c then some (z, r) else none
  | _ => none

theorem mem_of_answerOf {source : ReplySource} {events : List Event} {z : UInt16 × UInt16}
    (h : events.findSome? (answerOf source c) = some (z, r)) :
    .answered source c z r ∈ events := by
  obtain ⟨ev, hev, hsome⟩ := List.exists_of_findSome?_eq_some h
  unfold answerOf at hsome
  split at hsome
  · split at hsome
    · next heq =>
      obtain ⟨rfl, rfl⟩ := Prod.mk.inj (Option.some.inj hsome)
      obtain ⟨rfl, rfl⟩ := heq
      exact hev
    · exact absurd hsome (by simp)
  · exact absurd hsome (by simp)

/--
SL 1 of the second BG has given a true answer for the first cycle, and a late one for the second,
which does not begin like the result.
-/
theorem lateRun_result : ∃ σ z r z' r' p, Reachable oneAndTwo σ
    ∧ .answered .status 1 z r ∈ (σ (1, 1)).sl.history
    ∧ .answered .template 2 z' r' ∈ (σ (1, 1)).sl.history
    ∧ CommittedResult oneAndTwo σ 1 2 p
    ∧ r'.entirePreprepareMsg ≠ p.sentBytes oneAndTwo.host := by
  have hbatch : zeroBatch.length = requestBatchSize := List.length_replicate
  have hrun : (run oneAndTwo (sendBatch zeroBatch (sendBatch zeroBatch init)) lateRun).bind
        (fun σ => ((σ (1, 1)).sl.history.findSome? (answerOf .status 1)).bind fun _ =>
          ((σ (1, 1)).sl.history.findSome? (answerOf .template 2)).bind fun late =>
            ((committedOf (σ (1, 1)).sl.common.history).find? fun p => entryOf p = .client 2).map
              fun p => (late.2.entirePreprepareMsg.head?, (p.sentBytes oneAndTwo.host).head?))
      = some (some 0, some 1) := by decide +kernel
  obtain ⟨σ, hσ, hrest⟩ := Option.bind_eq_some_iff.mp hrun
  obtain ⟨⟨z, r⟩, hanswer, hrest⟩ := Option.bind_eq_some_iff.mp hrest
  obtain ⟨⟨z', r'⟩, hlate, hrest⟩ := Option.bind_eq_some_iff.mp hrest
  obtain ⟨p, hp, hheads⟩ := Option.map_eq_some_iff.mp hrest
  have hreach : Reachable oneAndTwo σ := by
    have hlabels : run oneAndTwo init
        (.clientTick (1, 1) zeroBatch :: .clientTick (1, 1) zeroBatch :: lateRun) = some σ := by
      rw [run_clientTick hbatch, run_clientTick hbatch, hσ]
    exact reachable_of_run .refl hlabels
  refine ⟨σ, z, r, z', r', p, hreach, mem_of_answerOf hanswer, mem_of_answerOf hlate,
    ⟨1, by decide, List.mem_of_find?_eq_some hp, ?_⟩, fun hsame => ?_⟩
  · have hentry := List.find?_some hp
    exact of_decide_eq_true hentry
  · obtain ⟨hfake, hreal⟩ := Prod.mk.inj hheads
    rw [hsame, hreal] at hfake
    exact absurd hfake (by decide)

/-- An answer from a status and a late answer of one SL. -/
theorem oneAndTwo_results : ∃ σ z r z' r', Reachable oneAndTwo σ
    ∧ .answered .status 1 z r ∈ (σ (1, 1)).sl.history ∧ TrueResult oneAndTwo σ 1 1 r
    ∧ .answered .template 2 z' r' ∈ (σ (1, 1)).sl.history ∧ LateAnswer oneAndTwo 2 (1, 1) r' := by
  obtain ⟨σ, z, r, z', r', p, hreach, hanswer, hlate, -⟩ := lateRun_result
  have hresults := (fetched_results valid_oneAndTwo.fits hreach).1
  exact ⟨σ, z, r, z', r', hreach, hanswer, (hresults _ _ _ _ _ hanswer).1 (by decide), hlate,
    (hresults _ _ _ _ _ hlate).2 rfl⟩

/-- A late answer does not carry what the BG has committed. -/
theorem lateRun_wrong : ¬ ∀ d : Deployment, d.conf.Valid → ∀ σ, Reachable d σ →
    ∀ y source c z r, .answered source c z r ∈ (σ y).sl.history → TrueResult d σ y.1 c r := by
  intro h
  obtain ⟨σ, z, r, z', r', p, hreach, -, hlate, hp, hne⟩ := lateRun_result
  exact hne ((h oneAndTwo valid_oneAndTwo σ hreach _ _ _ _ _ hlate).carries p hp).content

end RCanopus.Baseline
