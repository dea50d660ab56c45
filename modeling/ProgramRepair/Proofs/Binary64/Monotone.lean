import Mathlib.Data.Nat.Log
import ProgramRepair.Proofs.Binary64.Mean
import ProgramRepair.Proofs.Binary64.Rounding

/-!
# Rounding keeps the order

What is at most as large is at most as large when it is rounded. With equal exponents
the same multiples are rounded to; with different ones a power of two lies between the
values, and so it does between what they are rounded to. Main statements:

* `roundToEven_mono`, `nearest_mono`: the same for whole numbers and for magnitudes;
* `ofNat_div_ofNat_le_one`: the quotient of a count and one that is not less is at most 1.
-/

namespace ProgramRepair.Binary64

theorem roundToEven_mono {num num' den : Nat} (h : num ≤ num') :
    roundToEven num den ≤ roundToEven num' den := by
  have hquotient : num / den ≤ num' / den := Nat.div_le_div_right h
  rcases Nat.lt_or_eq_of_le hquotient with hlt | heq
  · calc roundToEven num den
        ≤ num / den + 1 := roundToEven_le num den
      _ ≤ num' / den := hlt
      _ ≤ roundToEven num' den := le_roundToEven num' den
  -- between the same whole numbers, more is left over
  · have hrest : num % den ≤ num' % den := by
      have hsplit := Nat.div_add_mod num den
      have hsplit' := Nat.div_add_mod num' den
      rw [← heq] at hsplit'
      omega
    unfold roundToEven
    dsimp only
    rw [← heq]
    by_cases hdown' : (2 * (num' % den) < den ||
        (2 * (num' % den) == den && num / den % 2 == 0)) = true
    · have hdown : (2 * (num % den) < den ||
          (2 * (num % den) == den && num / den % 2 == 0)) = true := by
        simp only [Bool.or_eq_true, Bool.and_eq_true, decide_eq_true_eq, beq_iff_eq] at hdown' ⊢
        omega
      rw [if_pos hdown, if_pos hdown']
    · rw [if_neg hdown']
      split
      · exact Nat.le_succ _
      · exact Nat.le_refl _

/-- From `2 ^ (k + 52)` units on, the exponent field is at least `k + 1`. -/
theorem succ_le_nearest {num den k : Nat} (h : 2 ^ (k + 52) ≤ num / den) :
    min infiniteMagnitude ((k + 1) * Nat.pow 2 52) ≤ nearest num den := by
  obtain ⟨e, he⟩ : ∃ e, (num / den).log2 - 52 = e := ⟨_, rfl⟩
  have hne : num / den ≠ 0 := Nat.ne_of_gt (Nat.lt_of_lt_of_le (Nat.two_pow_pos _) h)
  have hlog : k + 52 ≤ (num / den).log2 := (Nat.le_log2 hne).mpr h
  -- the leading bit is not rounded away
  have hbits : Nat.pow 2 52 ≤ num / (den * Nat.pow 2 e) := by
    rw [← Nat.div_div_eq_div_mul]
    refine (Nat.le_div_iff_mul_le (Nat.two_pow_pos e)).mpr ?_
    calc 2 ^ 52 * 2 ^ e
        = 2 ^ (52 + e) := (Nat.pow_add 2 52 e).symm
      _ ≤ 2 ^ (num / den).log2 := Nat.pow_le_pow_right (by decide) (by omega)
      _ ≤ num / den := Nat.log2_self_le hne
  unfold nearest
  dsimp only
  rw [he]
  refine Nat.le_min.mpr ⟨Nat.min_le_left _ _, Nat.le_trans (Nat.min_le_right _ _) ?_⟩
  calc (k + 1) * Nat.pow 2 52
      ≤ (e + 1) * Nat.pow 2 52 := Nat.mul_le_mul_right _ (by omega)
    _ = e * Nat.pow 2 52 + Nat.pow 2 52 := Nat.succ_mul _ _
    _ ≤ e * Nat.pow 2 52 + roundToEven num (den * Nat.pow 2 e) :=
      Nat.add_le_add_left (Nat.le_trans hbits (le_roundToEven _ _)) _

theorem nearest_mono {num num' den : Nat} (h : num ≤ num') : nearest num den ≤ nearest num' den := by
  have hquotient : num / den ≤ num' / den := Nat.div_le_div_right h
  obtain ⟨e, he⟩ : ∃ e, (num / den).log2 - 52 = e := ⟨_, rfl⟩
  obtain ⟨e', he'⟩ : ∃ e, (num' / den).log2 - 52 = e := ⟨_, rfl⟩
  have hexponent : e ≤ e' := by
    rw [← he, ← he', Nat.log2_eq_log_two, Nat.log2_eq_log_two]
    exact Nat.sub_le_sub_right (Nat.log_mono_right hquotient) 52
  rcases Nat.lt_or_eq_of_le hexponent with hlt | rfl
  -- the power of two between the values
  · have hbelow : num / den < 2 ^ (e + 53) :=
      calc num / den
          < 2 ^ ((num / den).log2 + 1) := Nat.lt_log2_self
        _ ≤ 2 ^ (e + 53) := Nat.pow_le_pow_right (by decide) (by omega)
    have habove : 2 ^ (e + 1 + 52) ≤ num' / den := by
      have hne : num' / den ≠ 0 := by
        intro hzero
        rw [hzero, Nat.log2_zero] at he'
        omega
      exact (Nat.le_log2 hne).mp (by omega)
    calc nearest num den
        ≤ min infiniteMagnitude ((e + 1 + 1) * Nat.pow 2 52) :=
          Nat.le_min.mpr ⟨nearest_le_infinite num den, nearest_le hbelow⟩
      _ ≤ nearest num' den := succ_le_nearest habove
  · unfold nearest
    dsimp only
    rw [he, he']
    have hround : roundToEven num (den * Nat.pow 2 e) ≤ roundToEven num' (den * Nat.pow 2 e) :=
      roundToEven_mono h
    exact Nat.le_min.mpr ⟨Nat.min_le_left _ _,
      Nat.le_trans (Nat.min_le_right _ _) (Nat.add_le_add_left hround _)⟩

/-- Larger magnitudes have larger values. -/
theorem units_mono {m m' : Nat} (h : m ≤ m') : units m ≤ units m' := by
  have hfield : m / Nat.pow 2 52 ≤ m' / Nat.pow 2 52 := Nat.div_le_div_right h
  rcases Nat.lt_or_eq_of_le hfield with hlt | heq
  -- a power of two lies between values with different exponent fields
  · obtain ⟨k, hk⟩ : ∃ k, m' / Nat.pow 2 52 = k + 1 :=
      Nat.exists_eq_succ_of_ne_zero (Nat.ne_of_gt (Nat.lt_of_le_of_lt (Nat.zero_le _) hlt))
    have hbelow : m < (k + 1) * Nat.pow 2 52 := by
      rw [← hk]
      exact (Nat.div_lt_iff_lt_mul (by decide)).mp hlt
    have habove : (k + 1) * Nat.pow 2 52 ≤ m' := by
      rw [← hk]
      exact Nat.div_mul_le_self m' _
    exact Nat.le_trans (Nat.le_of_lt (units_lt hbelow)) (le_units habove)
  · have hfraction : m % Nat.pow 2 52 ≤ m' % Nat.pow 2 52 := by
      have hsplit := Nat.div_add_mod m (Nat.pow 2 52)
      have hsplit' := Nat.div_add_mod m' (Nat.pow 2 52)
      rw [← heq] at hsplit'
      omega
    unfold units
    rw [← heq]
    split
    · exact h
    · exact Nat.mul_le_mul_right _ (Nat.add_le_add_left hfraction _)

/-- Numbers that are not negative are in the order of their magnitudes. -/
theorem le_of_magnitude_le {m m' : Nat} (h : m ≤ m') (hm' : m' ≤ infiniteMagnitude) :
    le ⟨false, m⟩ ⟨false, m'⟩ = true :=
  le_iff.mpr ⟨decide_eq_false (Nat.not_lt.mpr (Nat.le_trans h hm')),
    decide_eq_false (Nat.not_lt.mpr hm'), Int.ofNat_le.mpr h⟩

section Counts

variable {n m : Nat}

theorem units_one : units one.magnitude = unitsPerOne := by decide +kernel

theorem ofNat_mono (h : n ≤ m) : (ofNat n).magnitude ≤ (ofNat m).magnitude :=
  nearest_mono (Nat.mul_le_mul_right _ h)

/-- The quotient of a count and one that is not less is at most 1. -/
theorem ofNat_div_ofNat_le_one (h : n ≤ m) (hm : 0 < m) (hm' : m < 2 ^ 64) :
    (ofNat n / ofNat m).le one = true := by
  have hunits : units (ofNat n).magnitude ≤ units (ofNat m).magnitude := units_mono (ofNat_mono h)
  rw [ofNat_div_ofNat hm (Nat.lt_of_le_of_lt h hm') hm']
  refine le_of_magnitude_le ?_ (by decide)
  calc nearest (units (ofNat n).magnitude * unitsPerOne) (units (ofNat m).magnitude)
      ≤ nearest (units (ofNat m).magnitude * unitsPerOne) (units (ofNat m).magnitude) :=
        nearest_mono (Nat.mul_le_mul_right _ hunits)
    _ = nearest (unitsPerOne * units (ofNat m).magnitude) (1 * units (ofNat m).magnitude) := by
        rw [Nat.mul_comm, Nat.one_mul]
    _ = nearest unitsPerOne 1 := nearest_mul_right _ _ (units_ofNat_pos hm)
    _ = 0x3FF * Nat.pow 2 52 := by
        rw [← units_one]
        exact nearest_units (by decide)

/-- The quotient of two counts is greater than zero. -/
theorem zero_lt_ofNat_div_ofNat (hn : 0 < n) (hm : 0 < m) (hn' : n < 2 ^ 64) (hm' : m < 2 ^ 64) :
    zero.lt (ofNat n / ofNat m) = true := by
  have hzero := isZero_div_ofNat hn hm hn' hm'
  rw [ofNat_div_ofNat hm hn' hm'] at hzero ⊢
  refine lt_iff.mpr ⟨rfl, decide_eq_false (Nat.not_lt.mpr (nearest_le_infinite _ _)), ?_⟩
  have hpositive := Nat.pos_of_ne_zero (beq_eq_false_iff_ne.mp hzero)
  exact Int.ofNat_lt.mpr hpositive

end Counts

end ProgramRepair.Binary64
