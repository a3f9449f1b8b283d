import RCanopus.Framing
import RCanopus.Round2

/-!
# The full membership

The leader puts the membership responses of all BGs one after the other into a Preprepare, and
every SL of the BG takes them apart again and counts the votes in them. Writer and reader agree on
where a response ends only through the `payloadLen` of each.

* `tallyVisits_fullMembership`: the reader meets what the writer has put there.
* `finalMembership_iff`: when the votes give the BGs that enough others support.
-/

namespace RCanopus

section

variable {h : Endian} {numBG : Nat} {m : MessageRound3FullMembership}

/-! ## The memory of a response -/

/-- The fields of a membership response in front of its matrix. -/
def membershipFixedBytes (h : Endian) (m : MessageRound3FullMembership) : List UInt8 :=
  u16Bytes h m.senderBGid ++ u16Bytes h m.senderSLid ++ m.combinedSignature.toList
    ++ u16Bytes h m.cycle

theorem u16At_totalBGnum (rest : List UInt8) :
    u16At h (m.bytes h ++ rest) totalBGnumOffset = m.totalBGnum := by
  have hlen : (m.header.bytes h .round3MembershipResponse ++ membershipFixedBytes h m).length
      = totalBGnumOffset := by
    simp [membershipFixedBytes, length_u16Bytes, sizeofMessageHeader, totalBGnumOffset]
    rw [sbftSignatureSize_eq]
  have heq : m.bytes h ++ rest = (m.header.bytes h .round3MembershipResponse
      ++ membershipFixedBytes h m) ++ (u16Bytes h m.totalBGnum ++ (m.connectivity ++ rest)) := by
    unfold MessageRound3FullMembership.bytes membershipFixedBytes
    simp only [List.append_assoc]
  rw [heq, ← hlen, u16At_append]

theorem u32At_payloadLen (rest : List UInt8) :
    u32At h (m.bytes h ++ rest) 4 = m.header.payloadLen := by
  have hlen : (u16Bytes h m.header.version
      ++ u16Bytes h MessageType.round3MembershipResponse.code).length = 4 := by
    simp [length_u16Bytes]
  have heq : ∃ rest', m.bytes h ++ rest = (u16Bytes h m.header.version
      ++ u16Bytes h MessageType.round3MembershipResponse.code)
        ++ (u32Bytes h m.header.payloadLen ++ rest') := by
    refine ⟨membershipFixedBytes h m ++ u16Bytes h m.totalBGnum ++ m.connectivity ++ rest, ?_⟩
    unfold MessageRound3FullMembership.bytes membershipFixedBytes MessageHeader.bytes
    simp only [List.append_assoc]
  obtain ⟨rest', heq⟩ := heq
  rw [heq, ← hlen, u32At_append]

/-- A byte of the matrix. -/
theorem getD_connectivity (rest : List UInt8) {k : Nat} (hk : k < m.connectivity.length) :
    (m.bytes h ++ rest).getD (connectivityOffset + k) 0 = m.connectivity.getD k 0 := by
  have hlen : (m.header.bytes h .round3MembershipResponse ++ membershipFixedBytes h m
      ++ u16Bytes h m.totalBGnum).length = connectivityOffset := by
    simp [membershipFixedBytes, length_u16Bytes, sizeofMessageHeader, connectivityOffset]
    rw [sbftSignatureSize_eq]
  have heq : m.bytes h ++ rest = (m.header.bytes h .round3MembershipResponse
      ++ membershipFixedBytes h m ++ u16Bytes h m.totalBGnum) ++ (m.connectivity ++ rest) := by
    unfold MessageRound3FullMembership.bytes membershipFixedBytes
    simp only [List.append_assoc]
  rw [heq, List.getD_eq_getElem?_getD, ← hlen, List.getElem?_append_right (by omega),
    Nat.add_sub_cancel_left, List.getElem?_append_left hk, List.getD_eq_getElem?_getD]

/-- The copy of a framed response is all of it, and the reader moves on by as much. -/
theorem MessageRound3FullMembership.Framed.copyBytes_eq (hm : m.Framed) :
    membershipCopyBytes h m = m.bytes h := by
  refine List.take_of_length_le ?_
  rw [length_bytes]
  exact Nat.le_of_eq hm.symm

theorem MessageRound3FullMembership.Framed.step_eq (hm : m.Framed) (rest : List UInt8) :
    membershipStep h (m.bytes h ++ rest) = (m.bytes h).length := by
  unfold membershipStep
  rw [u32At_payloadLen, length_bytes]
  exact hm

/-! ## What the loop meets -/

/--
What is left before `end` at each message that the loop of `tallyLoop` looks at, and whether the
loop ends with `pos == end`.
-/
def tallyVisits (h : Endian) : Nat → List UInt8 → List (List UInt8) × Bool
  | 0, buf => ([], buf.isEmpty)
  | fuel + 1, buf =>
    if buf.isEmpty then ([], true)
    else if buf.length < membershipStep h buf then ([buf], false)
    else
      let next := tallyVisits h fuel (buf.drop (membershipStep h buf))
      (buf :: next.1, next.2)

/-- The loop is a fold over the messages that it looks at. -/
theorem tallyLoop_eq_foldl (fuel : Nat) (buf : List UInt8) (t : Tally) :
    tallyLoop h numBG fuel buf t
      = ((tallyVisits h fuel buf).1.foldl (fun t buf => tallyMessage h numBG buf t) t,
          (tallyVisits h fuel buf).2) := by
  induction fuel generalizing buf t with
  | zero => rfl
  | succ fuel ih =>
    unfold tallyLoop tallyVisits
    cases buf.isEmpty with
    | true => rfl
    | false =>
      rw [if_neg Bool.false_ne_true, if_neg Bool.false_ne_true]
      dsimp only
      by_cases hlt : buf.length < membershipStep h buf
      · rw [if_pos hlt, if_pos hlt]
        rfl
      · rw [if_neg hlt, if_neg hlt, ih]
        rfl

/-- What is left before `end` when the loop has got to each of some responses. -/
def membershipTails (h : Endian) : List MessageRound3FullMembership → List (List UInt8)
  | [] => []
  | m :: ms => (m :: ms).flatMap (membershipCopyBytes h) :: membershipTails h ms

/-- Over framed responses the loop goes from one to the next, and it ends where they end. -/
theorem tallyVisits_flatMap (ms : List MessageRound3FullMembership) (hms : ∀ m ∈ ms, m.Framed)
    (fuel : Nat) (hfuel : ms.length ≤ fuel) :
    tallyVisits h fuel (ms.flatMap (membershipCopyBytes h)) = (membershipTails h ms, true) := by
  induction ms generalizing fuel with
  | nil => cases fuel <;> rfl
  | cons m ms ih =>
    have hm := hms m List.mem_cons_self
    obtain ⟨fuel, rfl⟩ : ∃ f, fuel = f + 1 := ⟨fuel - 1, by rw [List.length_cons] at hfuel; omega⟩
    have hnonempty : ∀ rest, (m.bytes h ++ rest).isEmpty = false := fun rest => by
      have hlen : 0 < (m.bytes h).length := by
        rw [MessageRound3FullMembership.length_bytes]
        simp [sizeofMessageRound3FullMembership]
      cases hb : m.bytes h with
      | nil => simp [hb] at hlen
      | cons a l => rfl
    have hrest := ih (fun m' hm' => hms m' (List.mem_cons_of_mem _ hm')) fuel
      (by rw [List.length_cons] at hfuel; omega)
    unfold tallyVisits membershipTails
    rw [List.flatMap_cons, hm.copyBytes_eq, hnonempty, if_neg Bool.false_ne_true, hm.step_eq,
      if_neg (by simp), List.drop_left]
    dsimp only
    rw [hrest]

theorem length_le_flatMap {α β : Type} (f : α → List β) (l : List α)
    (hf : ∀ a ∈ l, 0 < (f a).length) : l.length ≤ (l.flatMap f).length := by
  induction l with
  | nil => exact Nat.le_refl 0
  | cons a l ih =>
    have ha := hf a List.mem_cons_self
    have hl := ih fun b hb => hf b (List.mem_cons_of_mem _ hb)
    rw [List.flatMap_cons, List.length_append, List.length_cons]
    omega

/-- The content of a Preprepare is some framed responses, and its header counts exactly these. -/
structure MessageRound2Preprepare.Concatenates (p : MessageRound2Preprepare) (h : Endian)
    (ms : List MessageRound3FullMembership) : Prop where
  framed : ∀ m ∈ ms, m.Framed
  content : p.participantsAndContent = ms.flatMap (membershipCopyBytes h)
  payload : p.header.payloadLen.toNat = p.participantsAndContent.length + 18

theorem MessageRound2Preprepare.Concatenates.preprepare_framed {p : MessageRound2Preprepare}
    {ms : List MessageRound3FullMembership} (hp : p.Concatenates h ms) : p.Framed := by
  unfold Framed MessageHeader.getMessageSize
  rw [hp.payload]
  simp only [sizeofMessageHeader, sizeofMessageRound2Preprepare]
  omega

theorem MessageRound2Preprepare.Concatenates.tallyContent_eq {p : MessageRound2Preprepare}
    {ms : List MessageRound3FullMembership} (hp : p.Concatenates h ms) :
    tallyContent p = ms.flatMap (membershipCopyBytes h) := by
  unfold tallyContent
  rw [hp.preprepare_framed, Nat.add_sub_cancel_left, List.take_length, hp.content]

/-- What the loop meets in such a Preprepare. -/
theorem MessageRound2Preprepare.Concatenates.visits {p : MessageRound2Preprepare}
    {ms : List MessageRound3FullMembership} (hp : p.Concatenates h ms) :
    tallyVisits h (tallyContent p).length (tallyContent p) = (membershipTails h ms, true) := by
  rw [hp.tallyContent_eq]
  refine tallyVisits_flatMap ms hp.framed _ (length_le_flatMap _ ms fun m hm => ?_)
  rw [BuilderCall.length_membershipCopyBytes m (hp.framed m hm)]
  simp only [sizeofMessageHeader]
  omega

/-- The tally of such a Preprepare. -/
theorem MessageRound2Preprepare.Concatenates.tallyVotes_eq {p : MessageRound2Preprepare}
    {ms : List MessageRound3FullMembership} (hp : p.Concatenates h ms) :
    tallyVotes h numBG p
      = ((membershipTails h ms).foldl (fun t buf => tallyMessage h numBG buf t)
          { votes := fun _ => 0, checks := true }, true) := by
  have hsize : sizeofMessageRound2Preprepare ≤ p.header.getMessageSize := by
    rw [hp.preprepare_framed]
    exact Nat.le_add_right _ _
  unfold tallyVotes
  rw [tallyLoop_eq_foldl, hp.visits]
  dsimp only
  rw [decide_eq_true hsize, Bool.and_true]

/-! ## The Preprepare of the leader -/

/-- The size of the copies in the Preprepare that the leader builds. -/
theorem length_flatMap_copyBytes (ms : List MessageRound3FullMembership)
    (hms : ∀ m ∈ ms, m.Framed) : (ms.flatMap (membershipCopyBytes h)).length
      = (ms.map fun m => sizeofMessageHeader + m.header.payloadLen.toNat).sum := by
  rw [List.length_flatMap]
  congr 1
  exact List.map_congr_left fun m hm => BuilderCall.length_membershipCopyBytes m (hms m hm)

/-- The two sizes agree: what the writer reserves, and where the reader ends. -/
theorem concatenates_fullMembershipPreprepare (conf : Config) (cycle : UInt16)
    (ms : List MessageRound3FullMembership) (hms : ∀ m ∈ ms, m.Framed)
    (hfit : (ms.map fun m => sizeofMessageHeader + m.header.payloadLen.toNat).sum + 18 < 2 ^ 32) :
    (fullMembershipPreprepare h conf cycle ms).Concatenates h ms := by
  refine ⟨hms, rfl, ?_⟩
  unfold fullMembershipPreprepare
  dsimp only
  rw [length_flatMap_copyBytes ms hms, UInt32.toNat_ofNat', Nat.mod_eq_of_lt]
  all_goals
    simp only [sizeofMessageRound2Preprepare, sizeofMessageHeader] at *
    omega

theorem MessageRound2Preprepare.Concatenates.numbered {p : MessageRound2Preprepare}
    {ms : List MessageRound3FullMembership} (hp : p.Concatenates h ms) (s : ConnManager) :
    (commonParts s p).Concatenates h ms := ⟨hp.framed, hp.content, hp.payload⟩

/-- A response whose memory is as long as its header says and holds its matrix. -/
structure MessageRound3FullMembership.WellFormed (m : MessageRound3FullMembership) : Prop where
  framed : m.Framed
  matrix : m.totalBGnum.toNat * m.totalBGnum.toNat ≤ m.connectivity.length

/-- The vote of `i` for `j` in the matrix of a response. -/
def MessageRound3FullMembership.vote (m : MessageRound3FullMembership) (i j : Nat) : Bool :=
  decide (m.connectivity.getD (i * m.totalBGnum.toNat + j) 0 ≠ 0)

/-- `pMembership` points to the response: what it reads are the fields and the matrix of it. -/
structure PointsTo (h : Endian) (m : MessageRound3FullMembership) (buf : List UInt8) : Prop where
  bytes : m.bytes h <+: buf
  totalBGnum : u16At h buf totalBGnumOffset = m.totalBGnum
  connectivity : ∀ i < m.totalBGnum.toNat, ∀ j < m.totalBGnum.toNat,
    decide (buf.getD (connectivityOffset + (i * m.totalBGnum.toNat + j)) 0 ≠ 0) = m.vote i j

/-- An entry lies in the matrix. -/
theorem entry_lt {n i j : Nat} (hi : i < n) (hj : j < n) : i * n + j < n * n := by
  have hrow : (i + 1) * n ≤ n * n := Nat.mul_le_mul_right n hi
  rw [Nat.succ_mul] at hrow
  omega

theorem MessageRound3FullMembership.WellFormed.pointsTo (hm : m.WellFormed) (rest : List UInt8) :
    PointsTo h m (m.bytes h ++ rest) where
  bytes := List.prefix_append _ _
  totalBGnum := u16At_totalBGnum rest
  connectivity := fun i hi j hj => by
    rw [getD_connectivity rest (Nat.lt_of_lt_of_le (entry_lt hi hj) hm.matrix)]
    rfl

theorem membershipTails_pointsTo (ms : List MessageRound3FullMembership)
    (hms : ∀ m ∈ ms, m.WellFormed) : List.Forall₂ (PointsTo h) ms (membershipTails h ms) := by
  induction ms with
  | nil => exact List.Forall₂.nil
  | cons m ms ih =>
    have hm := hms m List.mem_cons_self
    refine List.Forall₂.cons ?_ (ih fun m' hm' => hms m' (List.mem_cons_of_mem _ hm'))
    rw [List.flatMap_cons, hm.framed.copyBytes_eq]
    exact hm.pointsTo _

/--
**The concatenation is taken apart again.** `status` holds the responses that the leader got for
a cycle, some of them missing. The loop over the Preprepare that it proposes looks at the responses
that are there, in the order of the BGs, and it ends where the Preprepare ends.
-/
theorem tallyVisits_fullMembership (h : Endian) (conf : Config) (cycle : UInt16)
    (status : CycleStatus) (s : ConnManager)
    (hms : ∀ m ∈ membershipSlots conf status, m.WellFormed)
    (hfit : ((membershipSlots conf status).map fun m =>
      sizeofMessageHeader + m.header.payloadLen.toNat).sum + 18 < 2 ^ 32) :
    let p := commonParts s
      (fullMembershipPreprepare h conf cycle (membershipSlots conf status))
    let visits := tallyVisits h (tallyContent p).length (tallyContent p)
    List.Forall₂ (PointsTo h) (membershipSlots conf status) visits.1
      ∧ visits.2 = true
      ∧ tallyVotes h conf.numBG p
        = (visits.1.foldl (fun t buf => tallyMessage h conf.numBG buf t)
            { votes := fun _ => 0, checks := true }, true) := by
  intro p visits
  have hp : p.Concatenates h (membershipSlots conf status) :=
    (concatenates_fullMembershipPreprepare conf cycle _ (fun m hm => (hms m hm).framed)
      hfit).numbered s
  have hvisits : visits = (membershipTails h (membershipSlots conf status), true) := hp.visits
  rw [hvisits]
  exact ⟨membershipTails_pointsTo _ hms, rfl, hp.tallyVotes_eq⟩

/-- Two BGs of one server each. -/
def twoServers : Config where
  rgBGInfo :=
    [{ failure := 0, addr := [{ sinAddr := 0x7F000001, sinPort := 7000 }] },
      { failure := 0, addr := [{ sinAddr := 0x7F000001, sinPort := 7001 }] }]
  bGid := 0
  sLid := 0
  globalFailures := 0

/-- Three BGs of one server each. -/
def threeBGs : Config where
  rgBGInfo := (List.range 3).map fun bg =>
    { failure := 0, addr := [{ sinAddr := 0x7F000001, sinPort := 7000 + UInt16.ofNat bg }] }
  bGid := 0
  sLid := 0
  globalFailures := 0

/-- The response of the second BG is missing. -/
def withoutSecond : CycleStatus :=
  { CycleStatus.new with
    rgMsgRound3MembershipResponse := fun i =>
      if i = 1 then none else some (fakeMembershipResponse (threeBGs.ofSL i 0) 1) }

theorem tallyVisits_withoutSecond :
    let p := commonParts .init
      (fullMembershipPreprepare .little threeBGs 1 (membershipSlots threeBGs withoutSecond))
    let visits := tallyVisits .little (tallyContent p).length (tallyContent p)
    (membershipSlots threeBGs withoutSecond).map (·.senderBGid) = [0, 2]
      ∧ List.Forall₂ (PointsTo .little) (membershipSlots threeBGs withoutSecond) visits.1
      ∧ visits.2 = true
      ∧ tallyVotes .little threeBGs.numBG p
        = (visits.1.foldl (fun t buf => tallyMessage .little threeBGs.numBG buf t)
            { votes := fun _ => 0, checks := true }, true) := by
  refine ⟨by decide,
    tallyVisits_fullMembership .little threeBGs 1 withoutSecond .init ?_ (by decide)⟩
  have hslots : membershipSlots threeBGs withoutSecond
      = [fakeMembershipResponse (threeBGs.ofSL 0 0) 1,
        fakeMembershipResponse (threeBGs.ofSL 2 0) 1] := rfl
  rw [hslots]
  intro m hm
  rcases List.mem_cons.mp hm with rfl | hm
  · exact ⟨rfl, by decide⟩
  · obtain rfl := List.mem_singleton.mp hm
    exact ⟨rfl, by decide⟩

/-! ## The votes -/

/-- One entry of a matrix. -/
theorem votes_tallyEntry (buf : List UInt8) (n i j k : Nat) (t : Tally) :
    (tallyEntry buf n i t j).votes k = t.votes k
      + if k = j ∧ buf.getD (connectivityOffset + (i * n + j)) 0 ≠ 0 then 1 else 0 := by
  unfold tallyEntry
  by_cases hvote : buf.getD (connectivityOffset + (i * n + j)) 0 ≠ 0
  · rw [if_pos hvote]
    dsimp only
    by_cases hk : k = j
    · rw [hk, Function.update_self, if_pos ⟨rfl, hvote⟩]
    · rw [Function.update_of_ne hk, if_neg fun hand => hk hand.1, Nat.add_zero]
  · rw [if_neg hvote, if_neg fun hand => hvote hand.2, Nat.add_zero]

/-- One row of a matrix: at most one vote for each column. -/
theorem votes_row (buf : List UInt8) (n i k : Nat) (l : List Nat) (hl : l.Nodup) (t : Tally) :
    (l.foldl (tallyEntry buf n i) t).votes k = t.votes k
      + if k ∈ l ∧ buf.getD (connectivityOffset + (i * n + k)) 0 ≠ 0 then 1 else 0 := by
  induction l generalizing t with
  | nil => simp
  | cons j l ih =>
    obtain ⟨hj, hl⟩ := List.nodup_cons.mp hl
    rw [List.foldl_cons, ih hl, votes_tallyEntry]
    by_cases hk : k = j
    · subst hk
      simp [hj]
    · simp [hk]

/-- All rows of a matrix. -/
theorem votes_rows (buf : List UInt8) (n k : Nat) (hk : k < n) (rows : List Nat) (t : Tally) :
    (rows.foldl (fun t i => (List.range n).foldl (tallyEntry buf n i) t) t).votes k = t.votes k
      + rows.countP fun i => decide (buf.getD (connectivityOffset + (i * n + k)) 0 ≠ 0) := by
  induction rows generalizing t with
  | nil => rfl
  | cons i rows ih =>
    rw [List.foldl_cons, ih, votes_row _ _ _ _ _ List.nodup_range, List.countP_cons]
    simp only [List.mem_range, hk, true_and, decide_eq_true_eq]
    omega

/-- How many entries of the column of `j` are true in the matrix of a response. -/
def MessageRound3FullMembership.column (m : MessageRound3FullMembership) (j : Nat) : Nat :=
  (List.range m.totalBGnum.toNat).countP fun i => m.vote i j

theorem votes_tallyMessage {buf : List UInt8} (hbuf : PointsTo h m buf) {j : Nat}
    (hj : j < m.totalBGnum.toNat) (t : Tally) :
    (tallyMessage h numBG buf t).votes j = t.votes j + m.column j := by
  unfold tallyMessage
  dsimp only
  rw [hbuf.totalBGnum, votes_rows _ _ _ hj]
  unfold MessageRound3FullMembership.column
  congr 1
  refine List.countP_congr fun i hi => ?_
  rw [hbuf.connectivity i (List.mem_range.mp hi) j hj]

theorem votes_foldl {ms : List MessageRound3FullMembership} {bufs : List (List UInt8)}
    (hbufs : List.Forall₂ (PointsTo h) ms bufs) {j : Nat}
    (hj : ∀ m ∈ ms, j < m.totalBGnum.toNat) (t : Tally) :
    (bufs.foldl (fun t buf => tallyMessage h numBG buf t) t).votes j
      = t.votes j + (ms.map fun m => m.column j).sum := by
  induction hbufs generalizing t with
  | nil => rfl
  | cons hbuf _ ih =>
    rw [List.foldl_cons, ih fun m hm => hj m (List.mem_cons_of_mem _ hm),
      votes_tallyMessage hbuf (hj _ List.mem_cons_self), List.map_cons, List.sum_cons,
      Nat.add_assoc]

/-- `finalMembership`: the BGs with enough votes. -/
def finalMembership (conf : Config) (votes : Nat → Nat) : List Nat :=
  (List.range conf.numBG).filter fun i =>
    decide ((conf.numBG : Int) - conf.globalFailures ≤ votes i)

theorem mem_finalMembership {conf : Config} {votes : Nat → Nat} {j : Nat} :
    j ∈ finalMembership conf votes
      ↔ j < conf.numBG ∧ (conf.numBG : Int) - conf.globalFailures ≤ votes j := by
  unfold finalMembership
  rw [List.mem_filter, List.mem_range, decide_eq_true_iff]

/-- How many of `n` BGs vote for `j` in the matrix of any of the responses. -/
def supporters (ms : List MessageRound3FullMembership) (n j : Nat) : Nat :=
  (List.range n).countP fun i => ms.any fun m => m.vote i j

theorem countP_or_le {α : Type} (p q : α → Bool) (l : List α) :
    (l.countP fun a => p a || q a) ≤ l.countP p + l.countP q := by
  induction l with
  | nil => exact Nat.le_refl 0
  | cons a l ih =>
    rw [List.countP_cons, List.countP_cons, List.countP_cons]
    cases p a with
    | true =>
      rw [Bool.true_or, if_pos rfl]
      omega
    | false =>
      rw [Bool.false_or, if_neg Bool.false_ne_true]
      omega

/-- Every supporter has a vote in one of the matrices, and it counts there. -/
theorem supporters_le (ms : List MessageRound3FullMembership) {n : Nat}
    (hn : ∀ m ∈ ms, m.totalBGnum.toNat = n) (j : Nat) :
    supporters ms n j ≤ (ms.map fun m => m.column j).sum := by
  induction ms with
  | nil =>
    refine Nat.le_of_eq ?_
    unfold supporters
    rw [List.map_nil, List.sum_nil, List.countP_eq_zero]
    intro i _
    exact Bool.false_ne_true
  | cons m ms ih =>
    have hm : m.column j = (List.range n).countP fun i => m.vote i j := by
      unfold MessageRound3FullMembership.column
      rw [hn m List.mem_cons_self]
    have hrest := ih fun m' hm' => hn m' (List.mem_cons_of_mem _ hm')
    have hor := countP_or_le (fun i => m.vote i j) (fun i => ms.any fun m => m.vote i j)
      (List.range n)
    unfold supporters at hrest ⊢
    simp only [List.any_cons, List.map_cons, List.sum_cons]
    omega

/-- The votes of a Preprepare with some responses of the right size. -/
theorem MessageRound2Preprepare.Concatenates.votes_eq {p : MessageRound2Preprepare}
    {ms : List MessageRound3FullMembership} (hp : p.Concatenates h ms)
    (hms : ∀ m ∈ ms, m.WellFormed ∧ m.totalBGnum.toNat = numBG) {j : Nat} (hj : j < numBG) :
    (tallyVotes h numBG p).1.votes j = (ms.map fun m => m.column j).sum := by
  rw [hp.tallyVotes_eq]
  dsimp only
  rw [votes_foldl (membershipTails_pointsTo ms fun m hm => (hms m hm).1)
    (fun m hm => (hms m hm).2.symm ▸ hj), Nat.zero_add]

/-- A response is at least twice as long as any column of its matrix. -/
theorem MessageRound3FullMembership.WellFormed.column_le (hm : m.WellFormed) (j : Nat) :
    2 * m.column j ≤ sizeofMessageHeader + m.header.payloadLen.toNat := by
  have hsize : sizeofMessageHeader + m.header.payloadLen.toNat
      = sizeofMessageRound3FullMembership + m.connectivity.length := hm.framed
  have hcolumn : m.column j ≤ m.totalBGnum.toNat :=
    List.countP_le_length.trans (Nat.le_of_eq List.length_range)
  have hmatrix := hm.matrix
  rw [hsize]
  unfold sizeofMessageRound3FullMembership
  nlinarith

/-- The `int` counters of the votes do not overflow. -/
theorem votes_lt (ms : List MessageRound3FullMembership) (hms : ∀ m ∈ ms, m.WellFormed)
    (hfit : (ms.map fun m => sizeofMessageHeader + m.header.payloadLen.toNat).sum < 2 ^ 32)
    (j : Nat) : (ms.map fun m => m.column j).sum < 2 ^ 31 := by
  have hsum : 2 * (ms.map fun m => m.column j).sum
      ≤ (ms.map fun m => sizeofMessageHeader + m.header.payloadLen.toNat).sum := by
    clear hfit
    induction ms with
    | nil => exact Nat.le_refl 0
    | cons m ms ih =>
      have hm := (hms m List.mem_cons_self).column_le j
      have hrest := ih fun m' hm' => hms m' (List.mem_cons_of_mem _ hm')
      rw [List.map_cons, List.sum_cons, List.map_cons, List.sum_cons]
      omega
  omega

/--
**The votes count entries and not BGs.** `finalMembership` is the set of the BGs that at least
`N - f` BGs vote for exactly when no column has `N - f` true entries in all matrices together that
lie in fewer than `N - f` rows.
-/
theorem finalMembership_iff (h : Endian) (conf : Config) (cycle : UInt16) (s : ConnManager)
    (ms : List MessageRound3FullMembership)
    (hms : ∀ m ∈ ms, m.WellFormed ∧ m.totalBGnum.toNat = conf.numBG)
    (hfit : (ms.map fun m => sizeofMessageHeader + m.header.payloadLen.toNat).sum + 18 < 2 ^ 32) :
    (∀ j < conf.numBG,
        j ∈ finalMembership conf (tallyVotes h conf.numBG
            (commonParts s (fullMembershipPreprepare h conf cycle ms))).1.votes
          ↔ (conf.numBG : Int) - conf.globalFailures ≤ supporters ms conf.numBG j)
      ↔ ∀ j < conf.numBG,
        (conf.numBG : Int) - conf.globalFailures ≤ (ms.map fun m => m.column j).sum →
          (conf.numBG : Int) - conf.globalFailures ≤ supporters ms conf.numBG j := by
  have hp : (commonParts s (fullMembershipPreprepare h conf cycle ms)).Concatenates h ms :=
    (concatenates_fullMembershipPreprepare conf cycle ms (fun m hm => (hms m hm).1.framed)
      hfit).numbered s
  refine forall₂_congr fun j hj => ?_
  have hle := supporters_le ms (fun m hm => (hms m hm).2) j
  rw [mem_finalMembership, hp.votes_eq hms hj]
  constructor
  · intro hiff hvotes
    exact hiff.mp ⟨hj, hvotes⟩
  · intro henough
    refine ⟨fun hmem => henough hmem.2, fun hsupport => ⟨hj, ?_⟩⟩
    omega

/-- A response in which the first of two BGs votes for itself, and nobody else votes. -/
def selfVote : MessageRound3FullMembership :=
  { fakeMembershipResponse twoServers 1 with connectivity := [1, 0, 0, 0] }

/-- Both BGs send the matrix with one vote. It counts twice, and two votes are required. -/
theorem selfVote_kept :
    finalMembership twoServers (tallyVotes .little twoServers.numBG (commonParts .init
        (fullMembershipPreprepare .little twoServers 1 [selfVote, selfVote]))).1.votes = [0]
      ∧ supporters [selfVote, selfVote] twoServers.numBG 0 = 1
      ∧ ¬ ∀ j < twoServers.numBG,
        j ∈ finalMembership twoServers (tallyVotes .little twoServers.numBG (commonParts .init
            (fullMembershipPreprepare .little twoServers 1 [selfVote, selfVote]))).1.votes
          ↔ (twoServers.numBG : Int) - twoServers.globalFailures
            ≤ supporters [selfVote, selfVote] twoServers.numBG j := by
  have hkept : finalMembership twoServers (tallyVotes .little twoServers.numBG (commonParts .init
      (fullMembershipPreprepare .little twoServers 1 [selfVote, selfVote]))).1.votes = [0] := by
    decide +kernel
  refine ⟨hkept, by decide, fun hall => ?_⟩
  have hfirst := hall 0 (by decide)
  rw [hkept] at hfirst
  exact absurd (hfirst.mp List.mem_cons_self) (by decide)

theorem finalMembership_iff_selfVote :
    (∀ j < twoServers.numBG,
        j ∈ finalMembership twoServers (tallyVotes .little twoServers.numBG (commonParts .init
            (fullMembershipPreprepare .little twoServers 1 [selfVote, selfVote]))).1.votes
          ↔ (twoServers.numBG : Int) - twoServers.globalFailures
            ≤ supporters [selfVote, selfVote] twoServers.numBG j)
      ↔ ∀ j < twoServers.numBG,
        (twoServers.numBG : Int) - twoServers.globalFailures
            ≤ ([selfVote, selfVote].map fun m => m.column j).sum →
          (twoServers.numBG : Int) - twoServers.globalFailures
            ≤ supporters [selfVote, selfVote] twoServers.numBG j := by
  refine finalMembership_iff .little twoServers 1 .init [selfVote, selfVote] ?_ (by decide)
  intro m hm
  rw [List.eq_of_mem_replicate (n := 2) hm]
  exact ⟨⟨rfl, by decide⟩, rfl⟩

end

end RCanopus
