import RCanopus.Baseline.ResultMoves
import RCanopus.Round3Phases

/-!
# The result of the own BG

When an SL has committed the result of a client cycle, it answers the requests that wait for it and
sends its own.
-/

namespace RCanopus.Baseline

open Baseline.Cluster
open RCanopus.Cluster (committed_eq issued_eq)

variable {d : Deployment} {σ σ' : Cluster} {x y z : Peer} {e : QueueElement} {ω : Choice}
  {before : Node} {c : UInt16} {k : Key} {s : ConnManager} {g g' : Progress}
  {m : MessageRound2FullCommit} {p : MessageRound2Preprepare}

/-! ## Commits -/

/-- A dispatch that commits `p`, or that puts the full commit back. -/
structure Commits (d : Deployment) (σ σ' : Cluster) (x : Peer) (e : QueueElement) (ω : Choice)
    (before : Node) (m : MessageRound2FullCommit) (p : MessageRound2Preprepare) : Prop
    extends Dispatch d σ σ' x e ω before where
  element : e.pMessage.key = none
  branch : dispatcherRound2 (d.env x) ω e before.sl = commitBranch (d.env x) ω e m p before.sl
  planned : ∃ q, Planned d x.1 q ∧ p = q.copy
  issued : entryOf p ∈ (issuedOf (σ (x.1, 0)).sl.common.history).map entryOf
  fresh : entryOf p ∉ (committedOf before.sl.common.history).map entryOf
  follows : ∀ e', Follows (entryOf p) e' →
    e' ∈ (committedOf before.sl.common.history).map entryOf

/-- The next entry to commit is one of the plan. -/
theorem CoreOk.commits_at {b i : Nat} {a : LockStep.State} {log : List MessageRound2Preprepare}
    (h : CoreOk d σ) (hd : Dispatch d σ σ' (b, i) e ω before) (hinv : Round2Inv d σ.erase b a log)
    (hm : e.pMessage = .common (.round2FullCommit m))
    (hat : FullCommitAt d b i e ω before a log m p) :
    Commits d σ σ' (b, i) e ω before m p.copy := by
  have hn : 0 < d.conf.numSL b := Nat.lt_of_le_of_lt (Nat.zero_le _) hd.has.2
  have hplan := h.plan b
  have hissued : issuedOf (σ (b, 0)).sl.common.history = log := issued_eq hinv hn
  have hcommitted : committedOf before.sl.common.history
      = (log.take (a.com i)).map MessageRound2Preprepare.copy := by
    rw [hd.sl_eq]
    exact committed_eq hinv hd.has.2
  have hentries : (committedOf before.sl.common.history).map entryOf
      = (log.take (a.com i)).map entryOf := by
    rw [hcommitted, List.map_map,
      show entryOf ∘ MessageRound2Preprepare.copy = entryOf from funext entryOf_copy]
  have hsplit : log.map entryOf = (log.take (a.com i)).map entryOf
      ++ entryOf p :: (log.drop (a.com i + 1)).map entryOf := by
    obtain ⟨hlen, hget⟩ := List.getElem?_eq_some_iff.mp hat.entry
    rw [← List.map_cons, ← List.map_append, ← hget, List.getElem_cons_drop,
      List.take_append_drop]
  have hnodup : (log.map entryOf).Nodup := by
    have := hplan.nodup
    unfold planOf at this
    rw [List.map_append, hissued] at this
    exact (List.nodup_append.mp this).1
  refine { hd with
    element := by rw [hm]; rfl
    branch := hat.branch
    planned := ⟨p, hplan.issued p ?_, rfl⟩
    issued := ?_
    fresh := ?_
    follows := ?_ }
  · rw [hissued]
    exact List.mem_of_getElem? hat.entry
  · rw [hissued, entryOf_copy]
    exact List.mem_map_of_mem (List.mem_of_getElem? hat.entry)
  · rw [hentries, entryOf_copy]
    intro hmem
    rw [hsplit] at hnodup
    exact (List.nodup_append.mp hnodup).2.2 _ hmem _ List.mem_cons_self rfl
  · rw [hentries, entryOf_copy]
    intro e' he'
    have hgrounded := hplan.grounded
    rw [hissued] at hgrounded
    exact hgrounded.mem_of_next hsplit he'

/-- A full commit commits the next entry of the plan. -/
theorem CoreOk.commits (h : CoreOk d σ) (h1 : Round2Ok d σ.erase)
    (hd : Dispatch d σ σ' x e ω before) (hm : e.pMessage = .common (.round2FullCommit m)) :
    ∃ p, Commits d σ σ' x e ω before m p := by
  obtain ⟨b, i⟩ := x
  obtain ⟨a, log, hinv⟩ := h1 b (Nat.lt_of_le_of_lt (Nat.zero_le _) hd.has.2)
  obtain ⟨p, hat⟩ := hd.fullCommitAt hinv hm
  exact ⟨_, h.commits_at hd hinv hm hat⟩

/-- What an SL has committed for a cycle. -/
theorem mem_committed_view {p : MessageRound2Preprepare} :
    p ∈ (s.cycleView c).committed ↔ p ∈ committedOf s.common.history ∧ p.cycle = c := by
  show p ∈ (committedOf s.common.history).filter _ ↔ _
  rw [List.mem_filter, decide_eq_true_eq]

/-- The stage of an SL tells what it has committed. -/
theorem CycleOk.mem_entries (hg : CycleOk d σ c g) (hd : Dispatch d σ σ' x e ω before)
    {entry : Entry} (hc : entry.cycle = c) :
    entry ∈ (committedOf before.sl.common.history).map entryOf
      ↔ entry ∈ (g.stage x).entries d.conf.numBG c := by
  rw [← (hd.slCycle hg).committed, List.mem_map, List.mem_map]
  refine exists_congr fun p => ?_
  rw [mem_committed_view]
  constructor
  · rintro ⟨hp, rfl⟩
    exact ⟨⟨hp, by rw [← hc, cycle_entryOf]⟩, rfl⟩
  · rintro ⟨⟨hp, -⟩, hentry⟩
    exact ⟨hp, hentry⟩

theorem mem_entries_client {numBG : Nat} {st : Stage} :
    .client c ∈ st.entries numBG c ↔ st ≠ .idle := by
  unfold Stage.entries
  by_cases h : st = .idle
  · rw [if_pos h]
    simp [h, Stage.Connected]
  · rw [if_neg h]
    simp [h]

theorem mem_entries_localConnectivity {numBG : Nat} {st : Stage} :
    .localConnectivity c ∈ st.entries numBG c ↔ st.Connected numBG := by
  unfold Stage.entries
  by_cases h : st.Connected numBG
  · rw [if_pos h]
    simp [h]
  · rw [if_neg h, List.append_nil]
    refine iff_of_false ?_ h
    split <;> simp

/-! ## The views -/

/-- What answering the pending requests of a cycle changes in its view. -/
structure Answering (env : Env) (m : MessageRound2FullCommit) (p : MessageRound2Preprepare)
    (v v' : CycleView) : Prop where
  committed : v'.committed = v.committed
  status : v'.status = v.status
  stored : v'.stored = v.stored
  juggled : v'.juggled = v.juggled
  pending : requesters v'.pending = []
  events : ∃ evs, v'.events = v.events ++ evs
    ∧ ∀ ev ∈ evs, ∃ z, ev = .answered .pending p.cycle z (ownResult env m p).copy
  sends : ∃ l, v'.sends = v.sends ++ l
    ∧ (∀ el ∈ l, el.pMessage = .common (.round3FetchResponse (ownResult env m p).copy)
      ∧ (el.upPeers ≠ [] → ∃ z, .answered .pending p.cycle z (ownResult env m p).copy ∈ v'.events))
    ∧ ∀ x y c k, keyCount c k (sent x l y)
      = if k = .response p.bGid.toNat ∧ p.cycle = c ∧ y ∈ requesters v.pending then 1 else 0

theorem answering_answerPending {env : Env}
    (hnodup : (requesters (s.cycleView p.cycle).pending).Nodup) :
    Answering env m p (s.cycleView p.cycle) ((answerPending env m p s).cycleView p.cycle) := by
  have hpending : (s.cycleView p.cycle).pending = s.mapRound3PendingFetchRequests p.cycle := rfl
  have hcycle : (ownResult env m p).copy.cycle = p.cycle := rfl
  unfold answerPending
  cases hp : s.mapRound3PendingFetchRequests p.cycle with
  | none =>
    dsimp only
    rw [hp] at hpending
    refine ⟨rfl, rfl, rfl, rfl, by rw [hpending]; rfl, ⟨[], (List.append_nil _).symm,
      fun _ he => absurd he List.not_mem_nil⟩, [], (List.append_nil _).symm,
      fun _ he => absurd he List.not_mem_nil, fun x y c k => ?_⟩
    rw [sent_nil, hpending]
    simp [keyCount, requesters]
  | some requests =>
    dsimp only
    rw [hp] at hpending
    rw [hpending] at hnodup
    rw [cycleView_setPending, cycleView_answerRequests hcycle]
    refine ⟨rfl, rfl, rfl, rfl, rfl, ⟨_, rfl, fun ev hev => ?_⟩, _, rfl, fun el hel => ?_,
      fun x y c k => ?_⟩
    · obtain ⟨z, -, rfl⟩ := List.mem_map.mp hev
      exact ⟨z, rfl⟩
    · rw [List.mem_singleton.mp hel]
      refine ⟨rfl, fun hne => ?_⟩
      cases requests with
      | nil => exact absurd rfl hne
      | cons r requests =>
        exact ⟨r, List.mem_append_right _ (List.mem_map.mpr ⟨r, List.mem_cons_self, rfl⟩)⟩
    · rw [keyCount_sent_answers hnodup, hpending]
      rfl

theorem cycleView_answerPending_of_ne {env : Env} (hc : p.cycle ≠ c) :
    (answerPending env m p s).cycleView c = s.cycleView c := by
  have hcycle : (ownResult env m p).copy.cycle = p.cycle := rfl
  unfold answerPending
  split
  · rfl
  · rw [cycleView_setPending_of_ne hc, cycleView_answerRequests_of_ne hcycle hc]

theorem cycleView_handOver {env : Env} : (handOver env ω m p s).cycleView p.cycle
    = (s.cycleView p.cycle).setStatus (.ofRound2 (resultStatus env m p (.committed p))) := by
  have hfake : ∀ c, (prepareFakeResponse env ω p s).cycleView c = s.cycleView c := fun c => by
    unfold prepareFakeResponse
    split <;> rfl
  rw [← hfake p.cycle]
  exact cycleView_setStatus (s := { prepareFakeResponse env ω p s with
    common := { (prepareFakeResponse env ω p s).common with
      pTemporaryStorageOfPreprepare := none
      pRound2CurrentStatus := some (resultStatus env m p (.committed p)) } })

theorem cycleView_handOver_of_ne {env : Env} (hc : p.cycle ≠ c) :
    (handOver env ω m p s).cycleView c = s.cycleView c := by
  have hfake : (prepareFakeResponse env ω p s).cycleView c = s.cycleView c := by
    unfold prepareFakeResponse
    split <;> rfl
  rw [← hfake]
  exact cycleView_setStatus_of_ne (s := { prepareFakeResponse env ω p s with
    common := { (prepareFakeResponse env ω p s).common with
      pTemporaryStorageOfPreprepare := none
      pRound2CurrentStatus := some (resultStatus env m p (.committed p)) } }) hc

/-- The state in which a commit starts, with the Preprepare noted. -/
theorem cycleView_beforeBranch (hc : p.cycle = c) :
    (noteCommitted p (beforeBranch p s)).cycleView c
      = { s.cycleView c with committed := (s.cycleView c).committed ++ [p] } :=
  cycleView_noteCommitted (s := beforeBranch p s) hc

theorem cycleView_beforeBranch_of_ne (hc : p.cycle ≠ c) :
    (noteCommitted p (beforeBranch p s)).cycleView c = s.cycleView c :=
  cycleView_noteCommitted_of_ne (s := beforeBranch p s) hc

/-- A single BG has nothing to fetch. -/
theorem fullCommitFromClient_single {env : Env} {common : ConnManager → Outcome}
    (hnone : s.mapRound3Status p.cycle = none) (hlast : p.lastcycle + 1 = p.cycle)
    (hN : env.conf.numBG = 1) : fullCommitFromClient env ω m p (.committed p) s common
      = common (afterFullCommit3 p.cycle (answerPending env m p (handOver env ω m p s))) := by
  have hmap : (prepareFakeResponse env ω p s).mapRound3Status p.cycle = none := by
    unfold prepareFakeResponse
    split
    · exact hnone
    · exact hnone
  have hover : (handOver env ω m p s).mapRound3Status p.cycle
      = some (.ofRound2 (resultStatus env m p (.committed p))) := Function.update_self ..
  unfold fullCommitFromClient
  rw [hlast, Nat.sub_self]
  unfold skipCycles
  rw [Outcome.andThen_ok]
  dsimp only
  rw [show ((RCanopus.CycleStatus.committed p).rgMsgRound3FetchResponse env.conf.bGid).isNone
    = true from rfl, debugThrowElseReturnVoid_true, hmap, Option.isNone_none, debugThrow_true]
  have hrespond := round3RespondToPendingFetchRequests_eq hover
  have hanswered : (answerPending env m p (handOver env ω m p s)).mapRound3Status p.cycle
      = some (.ofRound2 (resultStatus env m p (.committed p))) :=
    (answerPending_map m p.cycle).trans hover
  unfold handOver at hrespond hanswered
  dsimp only at hrespond hanswered
  rw [hrespond, Outcome.andThen_ok]
  unfold envoyRound3SendFetchRequest
  rw [hanswered]
  dsimp only
  rw [if_neg fun hne => hne rfl, if_pos hN, round3Committed_set rfl]
  rfl

/-! ## The result of the own BG -/

/-- The state after a client Preprepare was committed, before the next round. -/
def afterClient (env : Env) (ω : Choice) (m : MessageRound2FullCommit)
    (p : MessageRound2Preprepare) (s : ConnManager) : ConnManager :=
  if env.conf.numBG = 1 then
    afterFullCommit3 p.cycle (answerPending env m p (handOver env ω m p s))
  else afterResult env ω m p s

/-- What a commit of the own result changes in the view of the cycle. -/
structure Started (d : Deployment) (x : Peer) (ω : Choice) (m : MessageRound2FullCommit)
    (p : MessageRound2Preprepare) (v v' : CycleView) : Prop where
  committed : v'.committed = v.committed ++ [p]
  status : v'.status = if d.conf.numBG = 1 then none else some (fetchingStatus (d.env x) m p)
  stored : v'.stored = (v.stored || d.conf.numBG = 1)
  juggled : v'.juggled = v.juggled
  pending : requesters v'.pending = []
  events : ∃ evs, v'.events = v.events ++ evs
    ∧ (∀ ev ∈ evs, ev = .round3Committed p.cycle
      ∨ ∃ z, ev = .answered .pending p.cycle z (ownResult (d.env x) m p).copy)
    ∧ marks evs = if d.conf.numBG = 1 then [.committed] else []
  sends : ∃ l, v'.sends = v.sends ++ l
    ∧ (∀ el ∈ l, el = requestElement (d.env x) ω (ownResult (d.env x) m p)
      ∨ el.pMessage = .common (.round3FetchResponse (ownResult (d.env x) m p).copy)
        ∧ (el.upPeers ≠ [] →
          ∃ z, .answered .pending p.cycle z (ownResult (d.env x) m p).copy ∈ v'.events))
    ∧ ∀ y k, keyCount p.cycle k (sent x l y)
      = (if k = .response p.bGid.toNat ∧ y ∈ requesters v.pending then 1 else 0)
        + if d.conf.numBG ≠ 1 ∧ k = .request (p.bGid.toNat, (UInt16.ofNat x.2).toNat)
            ∧ y.1 < d.conf.numBG ∧ y.1 ≠ x.1 ∧ y.2 = drawn d ω.engine y.1 then 1 else 0

theorem keyCount_sent_request : keyCount p.cycle k
    (sent x [requestElement (d.env x) ω (ownResult (d.env x) m p)] y)
      = if k = .request (p.bGid.toNat, (UInt16.ofNat x.2).toNat)
          ∧ y.1 < d.conf.numBG ∧ y.1 ≠ x.1 ∧ y.2 = drawn d ω.engine y.1 then 1 else 0 := by
  have hself : ¬(y = x
      ∧ none ∈ (requestElement (d.env x) ω (ownResult (d.env x) m p)).upPeers) := by
    simp [requestElement, getOneSLFromEveryRemoteBG]
  have hkey : (requestElement (d.env x) ω (ownResult (d.env x) m p)).pMessage.key
      = some (p.cycle, .request (p.bGid.toNat, (UInt16.ofNat x.2).toNat)) := rfl
  rw [keyCount_sent_singleton, hkey]
  show (if _ then _ + (getOneSLFromEveryRemoteBG (d.env x).conf ω.engine).count (some y)
    else 0) = _
  rw [if_neg hself, Nat.zero_add, count_others]
  by_cases hk : k = .request (p.bGid.toNat, (UInt16.ofNat x.2).toNat)
  · subst hk
    rw [if_pos rfl]
    exact if_congr (and_iff_right rfl).symm rfl rfl
  · rw [if_neg fun heq => hk (Prod.mk.inj (Option.some.inj heq)).2.symm, if_neg fun h => hk h.1]

theorem started_afterClient (hnodup : (requesters (s.cycleView p.cycle).pending).Nodup) :
    Started d x ω m p (s.cycleView p.cycle)
      ((afterClient (d.env x) ω m p (noteCommitted p (beforeBranch p s))).cycleView p.cycle) := by
  have hnoted := cycleView_beforeBranch (s := s) (p := p) rfl
  have hover : (handOver (d.env x) ω m p (noteCommitted p (beforeBranch p s))).cycleView p.cycle
      = _ := cycleView_handOver
  rw [hnoted] at hover
  have hanswering : Answering (d.env x) m p _ ((answerPending (d.env x) m p
      (handOver (d.env x) ω m p (noteCommitted p (beforeBranch p s)))).cycleView p.cycle) :=
    answering_answerPending (by rw [hover]; exact hnodup)
  rw [hover] at hanswering
  obtain ⟨evs, hevs, hanswered⟩ := hanswering.events
  obtain ⟨l, hl, hel, hcount⟩ := hanswering.sends
  have hmarks : marks evs = [] := List.filterMap_eq_nil_iff.mpr fun ev hev => by
    obtain ⟨z, rfl⟩ := hanswered ev hev
    rfl
  unfold afterClient
  by_cases hN : (d.env x).conf.numBG = 1
  · have hN' : d.conf.numBG = 1 := hN
    rw [if_pos hN, cycleView_afterFullCommit3]
    exact {
      committed := hanswering.committed
      status := by rw [if_pos hN']; rfl
      stored := by rw [hN']; simp [CycleView.store, CycleView.notes]
      juggled := hanswering.juggled
      pending := hanswering.pending
      events := ⟨evs ++ [.round3Committed p.cycle], by
        show CycleView.events _ ++ _ = _
        rw [← List.append_assoc]
        exact congrArg (· ++ _) hevs, fun ev hev => (List.mem_append.mp hev).symm.imp
          List.mem_singleton.mp (hanswered ev), by
        rw [marks_append, hmarks, if_pos hN']
        rfl⟩
      sends := ⟨l, hl, fun el he => Or.inr ⟨(hel el he).1, fun hne => by
        obtain ⟨z, hz⟩ := (hel el he).2 hne
        exact ⟨z, List.mem_append_left _ hz⟩⟩, fun y k => by
        refine (hcount x y p.cycle k).trans ?_
        rw [if_neg fun h : d.conf.numBG ≠ 1 ∧ _ => h.1 hN', Nat.add_zero]
        exact if_congr (and_congr_right fun _ => and_iff_right rfl) rfl rfl⟩ }
  · have hN' : d.conf.numBG ≠ 1 := hN
    rw [if_neg hN]
    unfold afterResult
    rw [cycleView_enqueue rfl, cycleView_setStatus]
    exact {
      committed := hanswering.committed
      status := by rw [if_neg hN']; rfl
      stored := by
        rw [decide_eq_false hN', Bool.or_false]
        exact hanswering.stored
      juggled := hanswering.juggled
      pending := hanswering.pending
      events := ⟨evs, hevs, fun ev hev => Or.inr (hanswered ev hev), by
        rw [hmarks, if_neg hN']⟩
      sends := ⟨l ++ [requestElement (d.env x) ω (ownResult (d.env x) m p)], by
        show CycleView.sends _ ++ _ = _
        rw [← List.append_assoc]
        exact congrArg (· ++ _) hl, fun el he => (List.mem_append.mp he).symm.imp
          List.mem_singleton.mp (hel el), fun y k => by
        rw [sent_append, keyCount_add, hcount, keyCount_sent_request]
        congr 1
        · exact if_congr (and_congr_right fun _ => and_iff_right rfl) rfl rfl
        · exact if_congr (and_iff_right hN').symm rfl rfl⟩ }

/-- An SL with no stage has asked nobody. -/
theorem Progress.Ok.token_of_idle {numBG : Nat} (h : g.Ok numBG) (hidle : g.stage y = .idle)
    (A : Nat) : g.token y A = .idle := by
  by_cases hA : A ≠ y.1 ∧ A < numBG
  · exact (h.idle y A hA.1 hA.2).mpr hidle
  · exact h.away y A (by omega)

/-- The start at one SL does not show at another. -/
theorem same_start {numBG : Nat} {target : Nat → Nat} (h : g.Ok numBG)
    (hidle : g.stage x = .idle) (hy : y ≠ x) : g.Same numBG (g.start numBG x target) y := by
  have hstage : (g.start numBG x target).stage y = g.stage y := by
    rw [Progress.start_stage, if_neg hy]
  refine ⟨hstage, ?_, fun A _ _ => ?_, fun z => ?_, ?_⟩
  · unfold Progress.expected
    rw [hstage]
    rfl
  · rw [Progress.start_token_of_ne hy]
    split
    · next hp => simp [hp.2]
    · exact Iff.rfl
  · by_cases hz : z = x
    · subst hz
      rw [Progress.start_token_self, h.token_of_idle hidle]
      split <;> simp
    · rw [Progress.start_token_of_ne hz]
      split
      · next hp =>
        rw [hp.2]
        refine iff_of_false (by simp) fun heq => hy ?_
        exact Prod.ext hp.1 (FetchToken.pending.inj heq).symm
      · exact Iff.rfl
  · unfold Progress.marks
    rw [hstage]
    rfl

theorem fetchingStatus_slot {env : Env} {A : Nat} (hA : A ≠ env.conf.bGid) :
    (fetchingStatus env m p).rgMsgRound3FetchResponse A = none := by
  exact Function.update_of_ne hA ..

/-- The cycle after an SL has committed the result of its BG. -/
theorem CycleOk.start (hg : CycleOk d σ p.cycle g) (hc : Commits d σ σ' x e ω before m p)
    (hfits : d.conf.Fits) (h2 : Round2Ok d σ'.erase) (hsend : before.sl.sendQueue = [])
    (hentry : entryOf p = .client p.cycle) (hbGid : p.bGid = UInt16.ofNat x.1)
    (hidle : g.stage x = .idle)
    (hends : EndsFrom d x s (dispatcherRound2 (d.env x) ω e before.sl))
    (hplan : x.2 = 0 → PlanOk d x.1 s.common)
    (hstarted : Started d x ω m p (before.sl.cycleView p.cycle) (s.cycleView p.cycle))
    (hplans : Plans s p.cycle ↔ Plans before.sl p.cycle) :
    CycleOk d σ' p.cycle (g.start d.conf.numBG x (drawn d ω.engine)) := by
  have hd := hc.toDispatch
  have hsl := hd.slCycle hg
  have hbefore := hd.view_eq (c := p.cycle)
  have hnone := sends_nil (c := p.cycle) hsend
  have hx : p.bGid.toNat = x.1 := by
    rw [hbGid, toNat_bGid hfits hd.has.1]
  have hsl' : (UInt16.ofNat x.2).toNat = x.2 := by
    have := hfits.numSL x.1
    have := hd.has.2
    rw [UInt16.toNat_ofNat', Nat.mod_eq_of_lt (by omega)]
  have htokens := hg.ok.token_of_idle hidle
  have hself : ∀ A, (g.start d.conf.numBG x (drawn d ω.engine)).token x A = _ :=
    Progress.start_token_self (drawn d ω.engine)
  obtain ⟨evs, hevs, hanswered, hmarks⟩ := hstarted.events
  obtain ⟨l, hl, hel, hcount⟩ := hstarted.sends
  rw [hnone, List.nil_append] at hl
  rw [hx, hsl'] at hcount
  have ht := hd.turn (c := p.cycle) true rfl (by
    rw [hends.view, hstarted.juggled]
    exact (List.append_nil _).symm)
  rw [hends.view] at ht
  have hevs' : (s.cycleView p.cycle).events = (viewAt σ p.cycle x).events ++ evs := by
    rw [hevs, hbefore]
  have hps : (s.cycleView p.cycle).committed = (viewAt σ p.cycle x).committed ++ [p] := by
    rw [hstarted.committed, hbefore]
  have hown : OwnAnswer d σ' p.cycle x (ownResult (d.env x) m p) := by
    refine ⟨p, ?_, hentry, m, rfl⟩
    rw [ht.self]
    show _ ∈ CycleView.committed _
    rw [hps]
    exact List.mem_append_right _ (List.mem_singleton_self p)
  have hstage : (g.start d.conf.numBG x (drawn d ω.engine)).stage x
      = if d.conf.numBG = 1 then .done else .fetching := by
    rw [Progress.start_stage, if_pos rfl]
  have hok := hg.ok.start hidle hd.has.1 (drawn d ω.engine)
  refine hg.turn ht hevs' hps hok ?_ (fun y hy => same_start hg.ok hidle hy)
    (fun y k hk => Or.inl ?_) (fun y k hk => ?_) (fun _ => rfl) (fun el' hel' hne => ?_)
    (fun status hstatus A hA r hr => ?_) (fun ev hev => ?_) fun b hb => ?_
  · refine {
      committed := ?_
      stored := ?_
      status := ?_
      own := fun status hstatus => ?_
      slots := fun status hstatus A hA hne => ?_
      nodup := by rw [hstarted.pending]; exact List.nodup_nil
      pending := fun z => ?_
      marks := ?_ }
    · rw [hstarted.committed, List.map_append, hsl.committed, hstage, hidle, List.map_singleton,
        hentry]
      by_cases hN : d.conf.numBG = 1 <;> simp [hN, Stage.entries, Stage.Connected]
    · rw [hstarted.stored, hsl.stored, hstage, hidle]
      by_cases hN : d.conf.numBG = 1 <;> simp [hN]
    · rw [hstarted.status]
      unfold Progress.expected
      rw [hstage]
      by_cases hN : d.conf.numBG = 1
      · rw [if_pos hN, if_pos hN]
        rfl
      · rw [if_neg hN, if_neg hN]
        rfl
    · rw [hstarted.status] at hstatus
      split at hstatus
      · exact absurd hstatus (by simp)
      · rw [← Option.some.inj hstatus]
        refine ⟨p, ?_, hentry, hbGid, m, Function.update_self ..⟩
        rw [hstarted.committed]
        exact List.mem_append_right _ (List.mem_singleton_self p)
    · rw [hstarted.status] at hstatus
      split at hstatus
      · exact absurd hstatus (by simp)
      · rw [← Option.some.inj hstatus, hself, if_pos ⟨hA, hne⟩]
        refine iff_of_false ?_ (by simp)
        rw [fetchingStatus_slot hne]
        simp
    · rw [hstarted.pending]
      refine iff_of_false List.not_mem_nil ?_
      by_cases hz : z = x
      · subst hz
        rw [hself, if_neg fun h => h.2 rfl]
        simp
      · rw [Progress.start_token_of_ne hz]
        split
        · simp
        · next hp => exact fun heq => hp ⟨rfl, heq⟩
    · rw [hevs, marks_append, hsl.marks, hmarks,
        hg.ok.marks_of_not_connected hd.has.1 (by simp [hidle, Stage.Connected]),
        hok.marks_of_not_connected hd.has.1 (by rw [hstage]; split <;> simp [*, Stage.Connected]),
        hstage, hidle]
      by_cases hN : d.conf.numBG = 1 <;> simp [hN]
  · cases k with
    | request z =>
      have hk : g.token z y.1 = .asked y.2 := hk
      have hz : z ≠ x := fun hz => by
        rw [hz, htokens] at hk
        simp at hk
      show (g.start _ _ _).token z y.1 = .asked y.2
      rw [Progress.start_token_of_ne hz, if_neg fun h => by simp [hk] at h]
      exact hk
    | response A =>
      have hk : g.token y A = .answered := hk
      have hy : y ≠ x := fun hy => by
        rw [hy, htokens] at hk
        simp at hk
      show (g.start _ _ _).token y A = .answered
      rw [Progress.start_token_of_ne hy]
      split
      · rfl
      · exact hk
    | _ => exact hk
  · rw [hl, hcount] at hk ⊢
    by_cases hresponse : k = .response x.1 ∧ y ∈ requesters (before.sl.cycleView p.cycle).pending
    · obtain ⟨rfl, hy⟩ := hresponse
      have hpending := (hsl.pending y).mp hy
      have hyx : y ≠ x := fun hyx => by
        rw [hyx, htokens] at hpending
        simp at hpending
      refine ⟨?_, ?_, ?_⟩
      · rw [if_pos ⟨rfl, hy⟩, if_neg (by simp)]
      · show ¬ g.token y x.1 = .answered
        rw [hpending]
        simp
      · show (g.start _ _ _).token y x.1 = .answered
        rw [Progress.start_token_of_ne hyx, if_pos ⟨rfl, hpending⟩]
    · rw [if_neg hresponse, Nat.zero_add] at hk ⊢
      split at hk
      · next hnew =>
        obtain ⟨hN, rfl, hlt, hne, htarget⟩ := hnew
        refine ⟨by rw [if_pos ⟨hN, rfl, hlt, hne, htarget⟩], ?_, ?_⟩
        · show ¬ g.token x y.1 = .asked y.2
          rw [htokens]
          simp
        · show (g.start _ _ _).token x y.1 = .asked y.2
          rw [hself, if_pos ⟨hlt, hne⟩, htarget]
      · exact absurd hk (Nat.lt_irrefl 0)
  · rw [hl] at hel'
    rcases hel el' hel' with rfl | ⟨hm, hevent⟩
    · trivial
    · rw [hm]
      show Answered σ' p.cycle p.bGid.toNat (ownResult (d.env x) m p).copy.copy
      rw [MessageRound3FetchResponse.copy_copy, hx]
      obtain ⟨z, hz⟩ := hevent hne
      refine ⟨x.2, .pending, z, ?_⟩
      rw [ht.self]
      exact hz
  · rw [hstarted.status] at hstatus
    split at hstatus
    · exact absurd hstatus (by simp)
    · rw [← Option.some.inj hstatus, fetchingStatus_slot hA] at hr
      exact absurd hr (by simp)
  · rcases hanswered ev hev with rfl | ⟨z, rfl⟩
    · trivial
    · exact ⟨fun _ => ⟨_, hown, rfl⟩, fun hne => absurd hne (by simp)⟩
  · rw [hd.planned_from h2 hends hplan]
    split
    · next hbx =>
      have hold := hg.planned b hb
      rw [hbx, hidle] at hold
      rw [hplans, hd.sl_eq, hbx, hstage]
      refine hold.trans (iff_of_false (by simp [Stage.Connected]) ?_)
      by_cases hN : d.conf.numBG = 1 <;> simp [hN, Stage.Connected]
    · next hbx =>
      rw [Progress.start_stage, if_neg hbx]
      exact hg.planned b hb

theorem answerPending_common {env : Env} : (answerPending env m p s).common = s.common := by
  unfold answerPending
  split
  · rfl
  · rfl

/-- A commit leaves the plan alone. -/
theorem samePlan_afterClient {env : Env} : SamePlan s.common
    (afterClient env ω m p (noteCommitted p (beforeBranch p s))).common := by
  have hover : SamePlan s.common
      (handOver env ω m p (noteCommitted p (beforeBranch p s))).common := by
    have hissued : issuedOf (s.common.history ++ [.committed p]) = issuedOf s.common.history := by
      rw [issuedOf_append]
      exact List.append_nil _
    unfold handOver prepareFakeResponse
    dsimp only
    split
    · exact ⟨hissued, rfl, rfl, rfl⟩
    · exact ⟨hissued, rfl, rfl, rfl⟩
  have hanswered : SamePlan s.common
      (answerPending env m p (handOver env ω m p (noteCommitted p (beforeBranch p s)))).common := by
    rw [answerPending_common]
    exact hover
  unfold afterClient
  split
  · exact hanswered
  · exact hanswered

theorem fakeOk_afterClient {env : Env} (h : FakeOk env s)
    (hsize : p.header.getMessageSize = sizeofMessageHeader + clientPayloadSize env.conf) :
    FakeOk env (afterClient env ω m p (noteCommitted p (beforeBranch p s))) := by
  have hover : FakeOk env (handOver env ω m p (noteCommitted p (beforeBranch p s))) := by
    unfold handOver prepareFakeResponse
    dsimp only
    split
    · exact fun f hf => ⟨_, p, (Option.some.inj hf).symm, hsize⟩
    · exact h
  have hanswered : FakeOk env
      (answerPending env m p (handOver env ω m p (noteCommitted p (beforeBranch p s)))) := by
    unfold answerPending
    split
    · exact hover
    · exact hover
  unfold afterClient
  split
  · exact hanswered
  · exact hanswered

theorem cycleView_afterClient_of_ne {env : Env} (hc : p.cycle ≠ c) :
    (afterClient env ω m p (noteCommitted p (beforeBranch p s))).cycleView c
      = s.cycleView c := by
  have hanswered : (answerPending env m p
      (handOver env ω m p (noteCommitted p (beforeBranch p s)))).cycleView c = s.cycleView c := by
    rw [cycleView_answerPending_of_ne hc, cycleView_handOver_of_ne hc,
      cycleView_beforeBranch_of_ne hc]
  have hkey : (requestElement env ω (ownResult env m p)).pMessage.round3Cycle ≠ some c := by
    intro heq
    exact hc (Option.some.inj heq)
  unfold afterClient
  split
  · rw [cycleView_afterFullCommit3_of_ne hc, hanswered]
  · unfold afterResult
    rw [cycleView_enqueue_of_ne hkey, cycleView_setStatus_of_ne hc, hanswered]

/-- A client Preprepare is one of the proposals of the BG. -/
theorem Commits.proposal (hc : Commits d σ σ' x e ω before m p)
    (ht : p.requestType = requestTypeFromClient) :
    ∃ q, p = q.copy ∧ Numbered (d.clientProposal x.1 p.cycle) q ∧ p.cycle ≠ 0 := by
  obtain ⟨q, hq, hcopy⟩ := hc.planned
  have hclient := hq.client (by rw [← ht, hcopy]; rfl)
  have hpq : q.cycle = p.cycle := by
    rw [hcopy]
    rfl
  rw [hpq] at hclient
  exact ⟨q, hcopy, hclient⟩

/-- The cycle of a client Preprepare has not begun. -/
theorem Commits.idle (hc : Commits d σ σ' x e ω before m p)
    (ht : p.requestType = requestTypeFromClient) (hg : CycleOk d σ p.cycle g) :
    g.stage x = .idle := by
  have hentry : entryOf p = .client p.cycle := entryOf_client.mpr ⟨ht, rfl⟩
  by_contra hne
  refine hc.fresh ?_
  rw [hentry, hg.mem_entries hc.toDispatch rfl]
  exact mem_entries_client.mpr hne

/-- What the full commit of a client Preprepare does. -/
theorem CoreOk.client_branch (h : CoreOk d σ) (hfits : d.conf.Fits)
    (hc : Commits d σ σ' x e ω before m p) (ht : p.requestType = requestTypeFromClient) :
    dispatcherRound2 (d.env x) ω e before.sl = spawnRound2 (d.env x) ω
      (afterClient (d.env x) ω m p (noteCommitted p (beforeBranch p before.sl))) := by
  have hn : 0 < d.conf.numSL x.1 := Nat.lt_of_le_of_lt (Nat.zero_le _) hc.has.2
  obtain ⟨q, hcopy, hnum, hzero⟩ := hc.proposal ht
  have hlast : p.lastcycle + 1 = p.cycle := by
    have hlast : p.lastcycle = p.cycle - 1 := by
      rw [hcopy]
      show q.lastcycle = _
      rw [← hnum, hcopy]
      rfl
    rw [hlast, UInt16.sub_add_cancel]
  obtain ⟨g, hg⟩ := h.cycles p.cycle
  have hnone : before.sl.mapRound3Status p.cycle = none := by
    have hstatus := (hc.slCycle hg).status
    rw [(Progress.expected_eq_none _ _ _).mpr (Or.inl (hc.idle ht hg))] at hstatus
    exact Option.map_eq_none_iff.mp hstatus
  have hcheck : getRound3RequestCheck
      (getRound3Request (d.env x).host (ownResult (d.env x) m p)) = true :=
    getRound3RequestCheck_client hfits hn hnum hzero (by
      rw [hcopy]
      exact q.sentBytes_copy d.host) rfl
  rw [hc.branch]
  unfold commitBranch afterClient
  rw [if_pos ht]
  split
  · next hN => exact fullCommitFromClient_single hnone hlast hN
  · next hN => exact fullCommitFromClient_eq hnone hlast hN hcheck

/-- **The result of the own BG** keeps the invariant. -/
theorem CoreOk.commitClient (h : CoreOk d σ) (hfits : d.conf.Fits) (h2 : Round2Ok d σ'.erase)
    (hc : Commits d σ σ' x e ω before m p) (hsend : before.sl.sendQueue = [])
    (ht : p.requestType = requestTypeFromClient) : Advance d σ σ' x := by
  have hd := hc.toDispatch
  have hn : 0 < d.conf.numSL x.1 := Nat.lt_of_le_of_lt (Nat.zero_le _) hd.has.2
  have hentry : entryOf p = .client p.cycle := entryOf_client.mpr ⟨ht, rfl⟩
  obtain ⟨q, hcopy, hnum, -⟩ := hc.proposal ht
  have hbGid : p.bGid = UInt16.ofNat x.1 := by
    rw [hcopy]
    show q.bGid = _
    rw [← hnum]
    rfl
  have hsize : p.header.getMessageSize
      = sizeofMessageHeader + clientPayloadSize (d.env x).conf := by
    rw [hcopy, show q.copy.header = q.header from rfl, hnum.header]
    exact getMessageSize_clientProposal hfits hn
  have hbranch := h.client_branch hfits hc ht
  have hends : EndsFrom d x _ (dispatcherRound2 (d.env x) ω e before.sl) :=
    hbranch ▸ endsFrom_spawnRound2
  have hsame : SamePlan before.sl.common (afterClient (d.env x) ω m p
      (noteCommitted p (beforeBranch p before.sl))).common := samePlan_afterClient
  have hplans : ∀ c, Plans (afterClient (d.env x) ω m p
      (noteCommitted p (beforeBranch p before.sl))) c ↔ Plans before.sl c := fun c => by
    unfold Plans
    rw [hsame.planOf]
  have hplan : x.2 = 0 → PlanOk d x.1 (afterClient (d.env x) ω m p
      (noteCommitted p (beforeBranch p before.sl))).common := fun hx =>
    (h.plan_before hd hx).same hsame
  refine h.step hd h2 hends hplan (fakeOk_afterClient (h.fake_before hd) hsize) fun c g' hg' => ?_
  by_cases hcycle : p.cycle = c
  · subst hcycle
    exact ⟨_, hg'.start hc hfits h2 hsend hentry hbGid (hc.idle ht hg') hends hplan
      (started_afterClient (hd.slCycle hg').nodup) (hplans _), .start _ (hc.idle ht hg')⟩
  · exact ⟨g', hg'.quiet_from hd h2 hsend hends hplan
      (Or.inl (cycleView_afterClient_of_ne hcycle)) (hplans c), .stay⟩

end RCanopus.Baseline
