import Mathlib.Data.List.Perm.Basic
import Mathlib.Data.List.Basic

/-!
# Turning slices of a list around

An in-place conversion between byte orders turns some slices of a buffer around. Turning a slice
around twice does nothing, and slices that do not overlap can be turned around in any order, so a
list of such conversions is undone by any permutation of it.
-/

/-- The positions from `offset` on, `size` of them. -/
structure Slice where
  offset : Nat
  size : Nat
  deriving DecidableEq, Repr

namespace Slice

variable {α : Type*}

/-- The position lies in the slice. -/
def Covers (s : Slice) (i : Nat) : Prop := s.offset ≤ i ∧ i < s.offset + s.size

/-- Two slices without a common position. -/
def Disjoint (s t : Slice) : Prop := s.offset + s.size ≤ t.offset ∨ t.offset + t.size ≤ s.offset

/-- The slice ends before the list does. -/
def Within (s : Slice) (l : List α) : Prop := s.offset + s.size ≤ l.length

instance (s : Slice) (i : Nat) : Decidable (s.Covers i) := inferInstanceAs (Decidable (_ ∧ _))

instance (s t : Slice) : Decidable (s.Disjoint t) := inferInstanceAs (Decidable (_ ∨ _))

instance (s : Slice) (l : List α) : Decidable (s.Within l) := inferInstanceAs (Decidable (_ ≤ _))

theorem Disjoint.symm {s t : Slice} (h : s.Disjoint t) : t.Disjoint s := Or.symm h

/-! ## One slice -/

/-- The list with one slice turned around. -/
def turn (s : Slice) (l : List α) : List α :=
  l.take s.offset ++ ((l.drop s.offset).take s.size).reverse ++ l.drop (s.offset + s.size)

/-- Where the element comes from that `turn` puts at a position. -/
def mirror (s : Slice) (i : Nat) : Nat :=
  if s.offset ≤ i ∧ i < s.offset + s.size then 2 * s.offset + s.size - 1 - i else i

@[simp] theorem length_turn (s : Slice) (l : List α) : (s.turn l).length = l.length := by
  simp only [turn, List.length_append, List.length_take, List.length_reverse, List.length_drop]
  omega

@[simp] theorem within_turn (s t : Slice) (l : List α) : s.Within (t.turn l) ↔ s.Within l := by
  simp [Within]

theorem getElem?_turn {s : Slice} {l : List α} (h : s.Within l) (i : Nat) :
    (s.turn l)[i]? = l[s.mirror i]? := by
  unfold Within at h
  have hpre : (l.take s.offset).length = s.offset := by
    rw [List.length_take]; omega
  have hmid : ((l.drop s.offset).take s.size).reverse.length = s.size := by
    rw [List.length_reverse, List.length_take, List.length_drop]; omega
  unfold turn mirror
  rw [List.append_assoc]
  by_cases hi : i < s.offset
  · rw [List.getElem?_append_left (by omega), List.getElem?_take_of_lt hi, if_neg (by omega)]
  · rw [List.getElem?_append_right (by omega), hpre]
    by_cases hm : i < s.offset + s.size
    · have hlen : ((l.drop s.offset).take s.size).length = s.size := by
        rw [List.length_take, List.length_drop]; omega
      rw [List.getElem?_append_left (by omega), List.getElem?_reverse (by omega), hlen,
        List.getElem?_take_of_lt (by omega), List.getElem?_drop, if_pos (by omega)]
      congr 1
      omega
    · rw [List.getElem?_append_right (by omega), hmid, List.getElem?_drop, if_neg (by omega)]
      congr 1
      omega

/-- Outside the slice nothing changes. -/
theorem getElem?_turn_of_not_covers {s : Slice} {l : List α} (h : s.Within l) {i : Nat}
    (hi : ¬ s.Covers i) : (s.turn l)[i]? = l[i]? := by
  rw [getElem?_turn h]
  unfold mirror
  unfold Covers at hi
  rw [if_neg hi]

theorem turn_turn {s : Slice} {l : List α} (h : s.Within l) : s.turn (s.turn l) = l := by
  apply List.ext_getElem?
  intro i
  rw [getElem?_turn ((within_turn s s l).mpr h), getElem?_turn h]
  have : s.mirror (s.mirror i) = i := by
    unfold mirror
    grind
  rw [this]

theorem turn_comm {s t : Slice} {l : List α} (hs : s.Within l) (ht : t.Within l)
    (h : s.Disjoint t) : s.turn (t.turn l) = t.turn (s.turn l) := by
  apply List.ext_getElem?
  intro i
  rw [getElem?_turn ((within_turn s t l).mpr hs), getElem?_turn ht,
    getElem?_turn ((within_turn t s l).mpr ht), getElem?_turn hs]
  have : t.mirror (s.mirror i) = s.mirror (t.mirror i) := by
    unfold mirror
    unfold Disjoint at h
    grind
  rw [this]

/-- A slice that ends before the second part of a list leaves that part alone. -/
theorem turn_append {s : Slice} {l : List α} (h : s.Within l) (r : List α) :
    s.turn (l ++ r) = s.turn l ++ r := by
  unfold Within at h
  unfold turn
  rw [List.take_append_of_le_length (by omega), List.drop_append_of_le_length (by omega),
    List.drop_append_of_le_length h, List.take_append_of_le_length, List.append_assoc,
    List.append_assoc, List.append_assoc]
  rw [List.length_drop]
  omega

/-! ## Many slices -/

/-- The list with all the slices turned around, one after the other. -/
def turnAll (ss : List Slice) (l : List α) : List α := ss.foldl (fun l s => s.turn l) l

@[simp] theorem turnAll_cons (s : Slice) (ss : List Slice) (l : List α) :
    turnAll (s :: ss) l = turnAll ss (s.turn l) := rfl

theorem turnAll_append (ss ts : List Slice) (l : List α) :
    turnAll (ss ++ ts) l = turnAll ts (turnAll ss l) := List.foldl_append

@[simp] theorem length_turnAll (ss : List Slice) (l : List α) :
    (turnAll ss l).length = l.length := by
  induction ss generalizing l with
  | nil => rfl
  | cons s ss ih => rw [turnAll_cons, ih, length_turn]

@[simp] theorem within_turnAll (s : Slice) (ss : List Slice) (l : List α) :
    s.Within (turnAll ss l) ↔ s.Within l := by
  simp [Within]

/-- Outside all the slices nothing changes. -/
theorem getElem?_turnAll_of_not_covers {ss : List Slice} {l : List α}
    (h : ∀ s ∈ ss, s.Within l) {i : Nat} (hi : ∀ s ∈ ss, ¬ s.Covers i) :
    (turnAll ss l)[i]? = l[i]? := by
  induction ss generalizing l with
  | nil => rfl
  | cons s ss ih =>
    rw [turnAll_cons, ih, getElem?_turn_of_not_covers (h s (by simp)) (hi s (by simp))]
    · intro t ht
      exact (within_turn t s l).mpr (h t (by simp [ht]))
    · intro t ht
      exact hi t (by simp [ht])

/-- Slices that end before the second part of a list leave that part alone. -/
theorem turnAll_append_right {ss : List Slice} {l : List α} (h : ∀ s ∈ ss, s.Within l)
    (r : List α) : turnAll ss (l ++ r) = turnAll ss l ++ r := by
  induction ss generalizing l with
  | nil => rfl
  | cons s ss ih =>
    rw [turnAll_cons, turnAll_cons, turn_append (h s (by simp)), ih]
    intro t ht
    exact (within_turn t s l).mpr (h t (by simp [ht]))

/-- One slice can be turned around before the others instead of after them. -/
theorem turn_turnAll {s : Slice} {ss : List Slice} {l : List α} (hs : s.Within l)
    (h : ∀ t ∈ ss, t.Within l) (hd : ∀ t ∈ ss, s.Disjoint t) :
    s.turn (turnAll ss l) = turnAll ss (s.turn l) := by
  induction ss generalizing l with
  | nil => rfl
  | cons t ss ih =>
    have ht : t.Within l := h t (by simp)
    rw [turnAll_cons, turnAll_cons, ← turn_comm hs ht (hd t (by simp))]
    refine ih ((within_turn s t l).mpr hs) ?_ ?_
    · intro u hu
      exact (within_turn u t l).mpr (h u (by simp [hu]))
    · intro u hu
      exact hd u (by simp [hu])

/-- In one of the slices the elements come from their mirror places. -/
theorem getElem?_turnAll_of_covers {ss : List Slice} {l : List α}
    (h : ∀ s ∈ ss, s.Within l) (hd : ss.Pairwise Disjoint) {s : Slice} (hs : s ∈ ss) {i : Nat}
    (hi : s.Covers i) : (turnAll ss l)[i]? = l[s.mirror i]? := by
  induction ss generalizing l with
  | nil => simp at hs
  | cons t ss ih =>
    have ht : t.Within l := h t (by simp)
    have hss : ∀ u ∈ ss, u.Within (t.turn l) := fun u hu => by simp [h u (by simp [hu])]
    have hdt : ∀ u ∈ ss, t.Disjoint u := (List.pairwise_cons.mp hd).1
    rw [turnAll_cons]
    rcases List.mem_cons.mp hs with rfl | hs
    · rw [getElem?_turnAll_of_not_covers hss, getElem?_turn ht]
      intro u hu hc
      have := hdt u hu
      unfold Disjoint at this
      unfold Covers at hi hc
      omega
    · rw [ih hss (List.pairwise_cons.mp hd).2 hs, getElem?_turn_of_not_covers ht]
      have := hdt s hs
      unfold Disjoint at this
      unfold Covers at hi ⊢
      unfold mirror
      rw [if_pos hi]
      omega

/-- Turning the slices around once more undoes it. -/
theorem turnAll_turnAll {ss : List Slice} {l : List α} (h : ∀ s ∈ ss, s.Within l)
    (hd : ss.Pairwise Disjoint) : turnAll ss (turnAll ss l) = l := by
  induction ss generalizing l with
  | nil => rfl
  | cons s ss ih =>
    have hs : s.Within l := h s (by simp)
    have hss : ∀ t ∈ ss, t.Within l := fun t ht => h t (by simp [ht])
    have hds : ∀ t ∈ ss, s.Disjoint t := (List.pairwise_cons.mp hd).1
    rw [turnAll_cons, turnAll_cons,
      turn_turnAll (by simp [hs]) (fun t ht => by simp [hss t ht]) hds, turn_turn hs,
      ih hss (List.pairwise_cons.mp hd).2]

/-- The order of the slices does not matter. -/
theorem turnAll_perm {ss ts : List Slice} {l : List α} (hp : ss.Perm ts)
    (h : ∀ s ∈ ss, s.Within l) (hd : ss.Pairwise Disjoint) : turnAll ss l = turnAll ts l := by
  induction hp generalizing l with
  | nil => rfl
  | cons s _ ih =>
    rw [turnAll_cons, turnAll_cons]
    refine ih ?_ (List.pairwise_cons.mp hd).2
    intro t ht
    exact (within_turn t s l).mpr (h t (by simp [ht]))
  | swap s t ss =>
    have hts : t.Disjoint s := (List.pairwise_cons.mp hd).1 s (by simp)
    rw [turnAll_cons, turnAll_cons, turnAll_cons, turnAll_cons,
      turn_comm (h s (by simp)) (h t (by simp)) hts.symm]
  | trans hp₁ _ ih₁ ih₂ =>
    rw [ih₁ h hd]
    refine ih₂ ?_ ?_
    · intro s hs
      exact h s (hp₁.mem_iff.mpr hs)
    · exact hp₁.pairwise hd fun hst => hst.symm

/-- **A list of conversions is undone by any permutation of it.** -/
theorem turnAll_turnAll_of_perm {ss ts : List Slice} {l : List α} (hp : ss.Perm ts)
    (h : ∀ s ∈ ss, s.Within l) (hd : ss.Pairwise Disjoint) : turnAll ts (turnAll ss l) = l := by
  have hts : ∀ t ∈ ts, t.Within (turnAll ss l) := fun t ht => by
    simp [h t (hp.mem_iff.mpr ht)]
  rw [turnAll_perm hp.symm hts (hp.pairwise hd fun hst => hst.symm), turnAll_turnAll h hd]

/-! ## Slices that follow one another -/

/-- The slices of the given sizes, one right after the other. -/
def consecutive : Nat → List Nat → List Slice
  | _, [] => []
  | offset, size :: sizes => { offset, size } :: consecutive (offset + size) sizes

theorem turn_middle (pre mid rest : List α) :
    turn { offset := pre.length, size := mid.length } (pre ++ (mid ++ rest))
      = pre ++ (mid.reverse ++ rest) := by
  unfold turn
  rw [List.take_left, List.drop_left, List.take_left, ← List.append_assoc pre mid rest,
    ← List.length_append, List.drop_left, List.append_assoc]

/-- Consecutive slices turn the parts of a list around and keep their order. -/
theorem turnAll_consecutive (pre : List α) (parts : List (List α)) (rest : List α) :
    turnAll (consecutive pre.length (parts.map List.length)) (pre ++ (parts.flatten ++ rest))
      = pre ++ ((parts.map List.reverse).flatten ++ rest) := by
  induction parts generalizing pre with
  | nil => rfl
  | cons part parts ih =>
    have hlen : pre.length + part.length = (pre ++ part.reverse).length := by
      rw [List.length_append, List.length_reverse]
    rw [List.map_cons, consecutive, turnAll_cons, List.flatten_cons, List.append_assoc part,
      turn_middle, hlen, ← List.append_assoc pre, ih, List.map_cons, List.flatten_cons,
      List.append_assoc pre, List.append_assoc part.reverse]

/-! ## Slices between two positions -/

/-- The same slice when `n` elements are put in front. -/
def shift (n : Nat) (s : Slice) : Slice := { offset := n + s.offset, size := s.size }

/-- Slices between two positions that do not overlap. -/
structure Laid (low high : Nat) (ss : List Slice) : Prop where
  low : ∀ s ∈ ss, low ≤ s.offset
  high : ∀ s ∈ ss, s.offset + s.size ≤ high
  disjoint : ss.Pairwise Disjoint

namespace Laid

variable {low middle high : Nat} {ss ts : List Slice}

theorem nil (low high : Nat) : Laid low high [] :=
  ⟨fun _ hs => absurd hs List.not_mem_nil, fun _ hs => absurd hs List.not_mem_nil, .nil⟩

theorem singleton {s : Slice} (hlow : low ≤ s.offset) (hhigh : s.offset + s.size ≤ high) :
    Laid low high [s] :=
  ⟨fun _ ht => List.mem_singleton.mp ht ▸ hlow, fun _ ht => List.mem_singleton.mp ht ▸ hhigh,
    List.pairwise_singleton _ _⟩

theorem mono {low' high' : Nat} (h : Laid low high ss) (hlow : low' ≤ low) (hhigh : high ≤ high') :
    Laid low' high' ss :=
  ⟨fun s hs => Nat.le_trans hlow (h.low s hs), fun s hs => Nat.le_trans (h.high s hs) hhigh,
    h.disjoint⟩

theorem append (h : Laid low middle ss) (h' : Laid middle high ts) (hlow : low ≤ middle)
    (hhigh : middle ≤ high) : Laid low high (ss ++ ts) where
  low := fun s hs => (List.mem_append.mp hs).elim (h.low s) fun hs =>
    Nat.le_trans hlow (h'.low s hs)
  high := fun s hs => (List.mem_append.mp hs).elim (fun hs =>
    Nat.le_trans (h.high s hs) hhigh) (h'.high s)
  disjoint := List.pairwise_append.mpr ⟨h.disjoint, h'.disjoint, fun s hs t ht =>
    Or.inl (Nat.le_trans (h.high s hs) (h'.low t ht))⟩

theorem shift (h : Laid low high ss) (n : Nat) :
    Laid (n + low) (n + high) (ss.map (Slice.shift n)) where
  low := fun s hs => by
    obtain ⟨t, ht, rfl⟩ := List.mem_map.mp hs
    exact Nat.add_le_add_left (h.low t ht) n
  high := fun s hs => by
    obtain ⟨t, ht, rfl⟩ := List.mem_map.mp hs
    have := h.high t ht
    show n + t.offset + t.size ≤ n + high
    omega
  disjoint := List.pairwise_map.mpr (h.disjoint.imp fun {s t} hst => by
    unfold Disjoint Slice.shift at *
    dsimp only
    omega)

/-- They lie in every list that is as long as the upper position. -/
theorem within (h : Laid low high ss) {l : List α} (hl : high ≤ l.length) :
    ∀ s ∈ ss, s.Within l := fun s hs => Nat.le_trans (h.high s hs) hl

end Laid

/-- **Where turning the slices around changes nothing**: the mirrored elements are equal. -/
theorem take_turnAll_eq_iff {ss : List Slice} {l : List α} (h : ∀ s ∈ ss, s.Within l)
    (hd : ss.Pairwise Disjoint) (n : Nat) :
    (turnAll ss l).take n = l.take n
      ↔ ∀ s ∈ ss, ∀ i < n, s.Covers i → l[s.mirror i]? = l[i]? := by
  constructor
  · intro heq s hs i hi hc
    have hget := congrArg (fun l => l[i]?) heq
    rw [List.getElem?_take_of_lt hi, List.getElem?_take_of_lt hi,
      getElem?_turnAll_of_covers h hd hs hc] at hget
    exact hget
  · intro heq
    apply List.ext_getElem?
    intro i
    rw [List.getElem?_take, List.getElem?_take]
    split
    · next hi =>
      by_cases hc : ∃ s ∈ ss, s.Covers i
      · obtain ⟨s, hs, hc⟩ := hc
        rw [getElem?_turnAll_of_covers h hd hs hc]
        exact heq s hs i hi hc
      · exact getElem?_turnAll_of_not_covers h fun s hs hcov => hc ⟨s, hs, hcov⟩
    · rfl

/-- Elements in front of a list are not touched by slices that are shifted past them. -/
theorem turnAll_map_shift (ss : List Slice) (pre l : List α) :
    turnAll (ss.map (shift pre.length)) (pre ++ l) = pre ++ turnAll ss l := by
  induction ss generalizing l with
  | nil => rfl
  | cons s ss ih =>
    have hturn : (s.shift pre.length).turn (pre ++ l) = pre ++ s.turn l := by
      unfold turn shift
      dsimp only
      rw [List.take_length_add_append, List.drop_length_add_append, Nat.add_assoc,
        List.drop_length_add_append, List.append_assoc, List.append_assoc, List.append_assoc]
    rw [List.map_cons, turnAll_cons, hturn, ih, turnAll_cons]

end Slice
