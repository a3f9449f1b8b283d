import Mathlib.Data.List.Nodup
import Mathlib.Data.List.Perm.Subperm
import Mathlib.Data.Nat.ModEq

/-!
# Steps around a circle

Whoever walks around a circle of `n` places in steps of `m` comes to the multiples of `gcd n m`,
and to each of them exactly once in `n / gcd n m` steps.
-/

namespace Orbit

/-- The place after `k` steps of `m` around a circle of `n` places. -/
def place (n m k : Nat) : Nat := k * m % n

/-- After how many steps the walk repeats itself. -/
def period (n m : Nat) : Nat := n / Nat.gcd n m

/-- The places that the walk comes to. -/
def places (n m : Nat) : List Nat := (List.range (period n m)).map (· * Nat.gcd n m)

variable {n m : Nat}

@[simp] theorem length_places : (places n m).length = n / Nat.gcd n m := by
  simp [places, period]

theorem place_lt (hn : 0 < n) (k : Nat) : place n m k < n := Nat.mod_lt _ hn

/-- One step further. -/
theorem place_succ (k : Nat) : place n m (k + 1) = (place n m k + m) % n := by
  unfold place
  rw [Nat.succ_mul, Nat.mod_add_mod]

theorem period_mul_gcd : period n m * Nat.gcd n m = n :=
  Nat.div_mul_cancel (Nat.gcd_dvd_left n m)

/-- Two times at which the walk is at the same place. -/
theorem modEq_of_place_eq (hn : 0 < n) {i j : Nat} (h : place n m i = place n m j) :
    i ≡ j [MOD period n m] :=
  Nat.ModEq.cancel_right_div_gcd hn h

theorem gcd_dvd_place (k : Nat) : Nat.gcd n m ∣ place n m k :=
  (Nat.dvd_mod_iff (Nat.gcd_dvd_left n m)).mpr ((Nat.gcd_dvd_right n m).mul_left k)

theorem nodup_places (hn : 0 < n) : (places n m).Nodup := by
  refine List.Nodup.map (fun i j hij => ?_) List.nodup_range
  exact Nat.eq_of_mul_eq_mul_right (Nat.gcd_pos_of_pos_left m hn) hij

theorem place_mem_places (hn : 0 < n) (k : Nat) : place n m k ∈ places n m := by
  have hgcd := Nat.gcd_pos_of_pos_left m hn
  obtain ⟨q, hq⟩ := gcd_dvd_place (n := n) (m := m) k
  have hlt := place_lt (m := m) hn k
  refine List.mem_map.mpr ⟨q, List.mem_range.mpr ?_, by rw [hq, Nat.mul_comm]⟩
  refine Nat.lt_of_mul_lt_mul_left (a := Nat.gcd n m) ?_
  rw [← hq, Nat.mul_comm, period_mul_gcd]
  exact hlt

/-- Within a period the walk does not come to a place twice. -/
theorem nodup_window (hn : 0 < n) (start : Nat) :
    ((List.range (period n m)).map fun i => place n m (start + i)).Nodup := by
  refine List.Nodup.map_on (fun i hi j hj hij => ?_) List.nodup_range
  have hmod : i ≡ j [MOD period n m] :=
    Nat.ModEq.add_left_cancel' start (modEq_of_place_eq hn hij)
  exact Nat.ModEq.eq_of_lt_of_lt hmod (List.mem_range.mp hi) (List.mem_range.mp hj)

/-- **A period visits every place once**, wherever it starts. -/
theorem window_perm (hn : 0 < n) (start : Nat) :
    ((List.range (period n m)).map fun i => place n m (start + i)).Perm (places n m) := by
  have hsubset : ((List.range (period n m)).map fun i => place n m (start + i))
      ⊆ places n m := by
    intro x hx
    obtain ⟨i, -, rfl⟩ := List.mem_map.mp hx
    exact place_mem_places hn _
  refine (List.subperm_of_subset (nodup_window hn start) hsubset).perm_of_length_le ?_
  simp [period]

/-- Steps that have no divisor in common with the circle come to all places. -/
theorem places_of_coprime (h : Nat.Coprime n m) : places n m = List.range n := by
  unfold places period
  rw [h, Nat.div_one]
  exact (List.map_congr_left fun i _ => Nat.mul_one i).trans (List.map_id' _)

end Orbit
