import Mathlib.Algebra.Group.Nat.Defs
import ProgramRepair.Binary64.Basic

/-!
# The order of doubles, and counts as doubles

On doubles that are numbers, `le` and `lt` are the order of their ranks: `le` is
a total preorder, in which the two zeros are equal, and `lt` is its strict part.

Rounding keeps the exponent of a value up to one, so bounds by powers of two pass
through it. That is enough to tell where the doubles of counts below `2 ^ 64` and
their quotients can stand. Main statements:

* `le_iff`, `lt_iff`: the order in terms of ranks;
* `le_nearest`, `nearest_le`: what the exponent of a value says of its magnitude;
* `zero_div_ofNat`, `isZero_div_ofNat`: the count zero divided by another one is zero,
  and no other quotient of counts is small enough to become zero.
-/

namespace ProgramRepair.Binary64

variable {x y z : Binary64}

theorem le_iff : x.le y = true ↔ x.isNaN = false ∧ y.isNaN = false ∧ x.rank ≤ y.rank := by
  simp [le, and_assoc]

theorem lt_iff : x.lt y = true ↔ x.isNaN = false ∧ y.isNaN = false ∧ x.rank < y.rank := by
  simp [lt, and_assoc]

theorem le_refl (h : x.isNaN = false) : x.le x = true :=
  le_iff.mpr ⟨h, h, Int.le_refl _⟩

theorem le_trans (hxy : x.le y = true) (hyz : y.le z = true) : x.le z = true := by
  obtain ⟨hx, -, hxy⟩ := le_iff.mp hxy
  obtain ⟨-, hz, hyz⟩ := le_iff.mp hyz
  exact le_iff.mpr ⟨hx, hz, Int.le_trans hxy hyz⟩

theorem le_of_lt (h : x.lt y = true) : x.le y = true := by
  obtain ⟨hx, hy, hlt⟩ := lt_iff.mp h
  exact le_iff.mpr ⟨hx, hy, Int.le_of_lt hlt⟩

theorem lt_of_lt_of_le (hxy : x.lt y = true) (hyz : y.le z = true) : x.lt z = true := by
  obtain ⟨hx, -, hxy⟩ := lt_iff.mp hxy
  obtain ⟨-, hz, hyz⟩ := le_iff.mp hyz
  exact lt_iff.mpr ⟨hx, hz, Int.lt_of_lt_of_le hxy hyz⟩

/-- Of two numbers one is at most the other. -/
theorem le_of_not_lt (hx : x.isNaN = false) (hy : y.isNaN = false) (h : x.lt y = false) :
    y.le x = true := by
  refine le_iff.mpr ⟨hy, hx, Int.not_lt.mp ?_⟩
  intro hlt
  exact Bool.false_ne_true (h.symm.trans (lt_iff.mpr ⟨hx, hy, hlt⟩))

/-- What is at most or at least something is a number. -/
theorem isNaN_of_le (h : x.le y = true) : x.isNaN = false ∧ y.isNaN = false := by
  obtain ⟨hx, hy, -⟩ := le_iff.mp h
  exact ⟨hx, hy⟩

/-! ## Zero -/

theorem rank_of_isZero (h : x.isZero = true) : x.rank = 0 := by
  have hmagnitude : x.magnitude = 0 := by simpa [isZero] using h
  simp [rank, hmagnitude]

/-- A zero of either sign is at most what is not negative. -/
theorem le_of_isZero (h : x.isZero = true) (hy : zero.le y = true) : x.le y = true := by
  obtain ⟨-, hy, hrank⟩ := le_iff.mp hy
  have hx : x.isNaN = false := by
    have hmagnitude : x.magnitude = 0 := by simpa [isZero] using h
    simp [isNaN, hmagnitude]
  refine le_iff.mpr ⟨hx, hy, ?_⟩
  rw [rank_of_isZero h]
  exact hrank

/-! ## Rounding to whole numbers -/

theorem le_roundToEven (num den : Nat) : num / den ≤ roundToEven num den := by
  unfold roundToEven
  dsimp only
  split
  · exact Nat.le_refl _
  · exact Nat.le_succ _

theorem roundToEven_le (num den : Nat) : roundToEven num den ≤ num / den + 1 := by
  unfold roundToEven
  dsimp only
  split
  · exact Nat.le_succ _
  · exact Nat.le_refl _

/-! ## Magnitudes -/

theorem nearest_le_infinite (num den : Nat) : nearest num den ≤ infiniteMagnitude :=
  Nat.min_le_left _ _

theorem nearest_zero {den : Nat} (hden : 0 < den) : nearest 0 den = 0 := by
  have hround : roundToEven 0 den = 0 := by
    unfold roundToEven
    simp [hden]
  simp [nearest, hround]

/-- From `2 ^ (k + 52)` units on, the exponent field is at least `k`. -/
theorem le_nearest {num den k : Nat} (h : 2 ^ (k + 52) ≤ num / den) (hk : k ≤ 0x7FF) :
    k * Nat.pow 2 52 ≤ nearest num den := by
  have hne : num / den ≠ 0 := Nat.ne_of_gt (Nat.lt_of_lt_of_le (Nat.two_pow_pos _) h)
  have hlog : k + 52 ≤ (num / den).log2 := (Nat.le_log2 hne).mpr h
  refine Nat.le_min.mpr ⟨Nat.mul_le_mul_right _ hk, ?_⟩
  exact Nat.le_trans (Nat.mul_le_mul_right _ (by omega)) (Nat.le_add_right _ _)

/-- Below `2 ^ (k + 53)` units, rounding up leads to the exponent field `k + 2` at most. -/
theorem nearest_le {num den k : Nat} (h : num / den < 2 ^ (k + 53)) :
    nearest num den ≤ (k + 2) * Nat.pow 2 52 := by
  obtain ⟨e, he⟩ : ∃ e, (num / den).log2 - 52 = e := ⟨_, rfl⟩
  have hek : e ≤ k := by
    by_cases hne : num / den = 0
    · rw [hne, Nat.log2_zero] at he
      omega
    · have hlog := (Nat.log2_lt hne).mpr h
      omega
  -- the bits from the leading one to the rounding place
  have hbits : num / (den * Nat.pow 2 e) < 2 ^ 53 := by
    rw [← Nat.div_div_eq_div_mul]
    refine (Nat.div_lt_iff_lt_mul (Nat.two_pow_pos e)).mpr ?_
    calc num / den
        < 2 ^ ((num / den).log2 + 1) := Nat.lt_log2_self
      _ ≤ 2 ^ (53 + e) := Nat.pow_le_pow_right (by decide) (by omega)
      _ = 2 ^ 53 * 2 ^ e := Nat.pow_add 2 53 e
  calc nearest num den
      ≤ e * Nat.pow 2 52 + roundToEven num (den * Nat.pow 2 e) := by
        rw [nearest, he]
        exact Nat.min_le_right _ _
    _ ≤ e * Nat.pow 2 52 + 2 * Nat.pow 2 52 :=
        Nat.add_le_add_left (Nat.le_trans (roundToEven_le _ _) hbits) _
    _ = (e + 2) * Nat.pow 2 52 := (Nat.add_mul _ _ _).symm
    _ ≤ (k + 2) * Nat.pow 2 52 := Nat.mul_le_mul_right _ (by omega)

/-- What is at least one unit is not rounded to zero. -/
theorem nearest_pos {num den : Nat} (h : 0 < num / den) : 0 < nearest num den := by
  obtain ⟨e, he⟩ : ∃ e, (num / den).log2 - 52 = e := ⟨_, rfl⟩
  have hbits : 0 < num / (den * Nat.pow 2 e) := by
    rw [← Nat.div_div_eq_div_mul]
    refine Nat.div_pos ?_ (Nat.two_pow_pos e)
    calc 2 ^ e
        ≤ 2 ^ (num / den).log2 := Nat.pow_le_pow_right (by decide) (by omega)
      _ ≤ num / den := Nat.log2_self_le (Nat.ne_of_gt h)
  rw [nearest, he]
  refine Nat.lt_min.mpr ⟨by decide, ?_⟩
  exact Nat.lt_of_lt_of_le hbits (Nat.le_trans (le_roundToEven _ _) (Nat.le_add_left _ _))

theorem le_units {m k : Nat} (h : (k + 1) * Nat.pow 2 52 ≤ m) : 2 ^ (k + 52) ≤ units m := by
  have hfield : k + 1 ≤ m / Nat.pow 2 52 := (Nat.le_div_iff_mul_le (by decide)).mpr h
  unfold units
  split
  · next hzero => omega
  · next e he =>
    calc 2 ^ (k + 52)
        = 2 ^ 52 * 2 ^ k := by rw [Nat.add_comm, Nat.pow_add]
      _ ≤ (Nat.pow 2 52 + m % Nat.pow 2 52) * Nat.pow 2 e :=
        Nat.mul_le_mul (Nat.le_add_right _ _) (Nat.pow_le_pow_right (by decide) (by omega))

theorem units_lt {m k : Nat} (h : m < (k + 1) * Nat.pow 2 52) : units m < 2 ^ (k + 52) := by
  have hfield : m / Nat.pow 2 52 < k + 1 := (Nat.div_lt_iff_lt_mul (by decide)).mpr h
  unfold units
  split
  · next hzero =>
    calc m
        < 2 ^ 52 := by
          rcases Nat.div_eq_zero_iff.mp hzero with hpow | hlt
          · cases hpow
          · exact hlt
      _ ≤ 2 ^ (k + 52) := Nat.pow_le_pow_right (by decide) (by omega)
  · next e he =>
    have hfraction : Nat.pow 2 52 + m % Nat.pow 2 52 < 2 ^ 53 := by
      have hlt : m % Nat.pow 2 52 < Nat.pow 2 52 := Nat.mod_lt _ (by decide)
      exact Nat.add_lt_add_left hlt (Nat.pow 2 52)
    calc (Nat.pow 2 52 + m % Nat.pow 2 52) * Nat.pow 2 e
        < 2 ^ 53 * 2 ^ e := Nat.mul_lt_mul_of_pos_right hfraction (Nat.two_pow_pos e)
      _ = 2 ^ (53 + e) := (Nat.pow_add 2 53 e).symm
      _ ≤ 2 ^ (k + 52) := Nat.pow_le_pow_right (by decide) (by omega)

/-! ## Counts -/

/-- The number of units per 1 as a power whose exponent is known by its value only: written out, it
is too large to compute with. -/
theorem exists_unitsPerOne : ∃ e, e = 1074 ∧ unitsPerOne = 2 ^ e := by
  obtain ⟨e, he⟩ : ∃ e, e = 1074 := ⟨_, rfl⟩
  refine ⟨e, he, ?_⟩
  unfold unitsPerOne
  rw [← he, Nat.pow_eq]

section Counts

variable {n m : Nat}

theorem isNaN_ofNat (n : Nat) : (ofNat n).isNaN = false :=
  decide_eq_false (Nat.not_lt.mpr (nearest_le_infinite _ _))

/-- The magnitude of a count below `2 ^ 64`. -/
theorem magnitude_ofNat_le (h : n < 2 ^ 64) : (ofNat n).magnitude ≤ 1087 * Nat.pow 2 52 := by
  obtain ⟨e, he, hunits⟩ := exists_unitsPerOne
  obtain ⟨k, hk⟩ : ∃ k, k + 53 = 64 + e := ⟨11 + e, by omega⟩
  have hlt : n * 2 ^ e / 1 < 2 ^ (k + 53) := by
    rw [Nat.div_one, hk, Nat.pow_add]
    exact Nat.mul_lt_mul_of_pos_right h (Nat.two_pow_pos e)
  rw [ofNat, hunits, show 1087 = k + 2 by omega]
  exact nearest_le hlt

/-- The magnitude of a positive count. -/
theorem le_magnitude_ofNat (h : 0 < n) : 1022 * Nat.pow 2 52 ≤ (ofNat n).magnitude := by
  obtain ⟨e, he, hunits⟩ := exists_unitsPerOne
  obtain ⟨k, hk⟩ : ∃ k, k + 52 = e := ⟨e - 52, by omega⟩
  have hle : 2 ^ (k + 52) ≤ n * 2 ^ e / 1 := by
    rw [Nat.div_one, hk]
    exact Nat.le_mul_of_pos_left _ h
  rw [ofNat, hunits, show 1022 = k by omega]
  exact le_nearest hle (by omega)

/-- The units of a count, with room for rounding. -/
theorem units_ofNat_le (h : n < 2 ^ 64) : units (ofNat n).magnitude ≤ 2 ^ 65 * unitsPerOne := by
  obtain ⟨e, he, hunits⟩ := exists_unitsPerOne
  obtain ⟨k, hk⟩ : ∃ k, k + 52 = 65 + e := ⟨13 + e, by omega⟩
  have hlt : (ofNat n).magnitude < (k + 1) * Nat.pow 2 52 :=
    Nat.lt_of_le_of_lt (magnitude_ofNat_le h) (Nat.mul_lt_mul_of_pos_right (by omega) (by decide))
  rw [hunits, ← Nat.pow_add, ← hk]
  exact Nat.le_of_lt (units_lt hlt)

/-- The units of a positive count, with room for rounding. -/
theorem le_units_ofNat (h : 0 < n) : unitsPerOne ≤ 2 * units (ofNat n).magnitude := by
  obtain ⟨e, he, hunits⟩ := exists_unitsPerOne
  obtain ⟨k, hk⟩ : ∃ k, k + 52 + 1 = e := ⟨e - 53, by omega⟩
  have hle : (k + 1) * Nat.pow 2 52 ≤ (ofNat n).magnitude :=
    Nat.le_trans (Nat.mul_le_mul_right _ (by omega)) (le_magnitude_ofNat h)
  rw [hunits, ← hk, Nat.pow_succ, Nat.mul_comm]
  exact Nat.mul_le_mul_left 2 (le_units hle)

theorem le_unitsPerOne : 2 ^ 66 ≤ unitsPerOne := by
  obtain ⟨e, he, hunits⟩ := exists_unitsPerOne
  rw [hunits]
  exact Nat.pow_le_pow_right (by decide) (by omega)

theorem isInfinite_ofNat (h : n < 2 ^ 64) : (ofNat n).isInfinite = false := by
  have hlt : (ofNat n).magnitude < infiniteMagnitude :=
    Nat.lt_of_le_of_lt (magnitude_ofNat_le h) (by decide)
  exact beq_eq_false_iff_ne.mpr (Nat.ne_of_lt hlt)

theorem isZero_ofNat (h : 0 < n) : (ofNat n).isZero = false := by
  have hpos : 0 < (ofNat n).magnitude := Nat.lt_of_lt_of_le (by decide) (le_magnitude_ofNat h)
  exact beq_eq_false_iff_ne.mpr (Nat.ne_of_gt hpos)

/-- The quotient of two counts is rounded once from the quotient of their units. -/
theorem ofNat_div_ofNat (hm : 0 < m) (hn : n < 2 ^ 64) (hm' : m < 2 ^ 64) :
    ofNat n / ofNat m = ⟨false, nearest (units (ofNat n).magnitude * unitsPerOne)
      (units (ofNat m).magnitude)⟩ := by
  change div (ofNat n) (ofNat m) = _
  simp only [div, isNaN_ofNat, isInfinite_ofNat hn, isInfinite_ofNat hm', isZero_ofNat hm,
    Bool.or_self, Bool.false_eq_true, if_false]
  rfl

theorem units_ofNat_pos (h : 0 < n) : 0 < units (ofNat n).magnitude := by
  have hle := le_units_ofNat h
  have hone := le_unitsPerOne
  omega

theorem zero_div_ofNat (hm : 0 < m) (hm' : m < 2 ^ 64) : ofNat 0 / ofNat m = zero := by
  have hzero : (ofNat 0).magnitude = 0 := by
    change nearest (0 * unitsPerOne) 1 = 0
    rw [Nat.zero_mul]
    exact nearest_zero Nat.one_pos
  rw [ofNat_div_ofNat hm (by decide) hm', hzero, units_zero, Nat.zero_mul,
    nearest_zero (units_ofNat_pos hm)]
  rfl

/-- The quotient of two counts is far from the range in which doubles are lost. -/
theorem isZero_div_ofNat (hn : 0 < n) (hm : 0 < m) (hn' : n < 2 ^ 64) (hm' : m < 2 ^ 64) :
    (ofNat n / ofNat m).isZero = false := by
  have hlarge : 2 ^ 65 ≤ units (ofNat n).magnitude := by
    have hle := le_units_ofNat hn
    have hone := le_unitsPerOne
    omega
  have hle : units (ofNat m).magnitude ≤ units (ofNat n).magnitude * unitsPerOne :=
    Nat.le_trans (units_ofNat_le hm') (Nat.mul_le_mul_right _ hlarge)
  rw [ofNat_div_ofNat hm hn' hm']
  exact beq_eq_false_iff_ne.mpr
    (Nat.ne_of_gt (nearest_pos (Nat.div_pos hle (units_ofNat_pos hm))))

end Counts

end ProgramRepair.Binary64
