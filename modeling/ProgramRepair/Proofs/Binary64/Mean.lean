import ProgramRepair.Proofs.Binary64.Rounding

/-!
# Sums and means of copies

Adding up copies of a number rounds at every step, and the quotient by their count rounds once
more, so the mean of copies need not be the number itself. It is where all multiples on the way
are doubles. Main statements:

* `nearest_units`: rounding keeps what is a double already;
* `sum_replicate`: a sum of copies whose partial sums are exact is exact;
* `mean_replicate_of_exact`: then the mean is the number itself;
* `isZero_mean_replicate`: the mean of zeros is zero.
-/

namespace ProgramRepair.Binary64

/-! ## Values that are doubles -/

/-- A number of units that some finite double has. -/
def IsExact (n : Nat) : Prop := ∃ m, m < infiniteMagnitude ∧ units m = n

theorem roundToEven_mul (n : Nat) {den : Nat} (hden : 0 < den) : roundToEven (n * den) den = n := by
  have hmod : n * den % den = 0 := Nat.mul_mod_left n den
  unfold roundToEven
  dsimp only
  rw [hmod, Nat.mul_zero, Nat.mul_div_cancel n hden, if_pos (by simp [hden])]

/-- Numerator and denominator may have a common factor. -/
theorem roundToEven_mul_right (num den : Nat) {c : Nat} (hc : 0 < c) :
    roundToEven (num * c) (den * c) = roundToEven num den := by
  have htwice : 2 * (num % den * c) = 2 * (num % den) * c := (Nat.mul_assoc _ _ _).symm
  have hlt : decide (2 * (num % den) * c < den * c) = decide (2 * (num % den) < den) :=
    decide_eq_decide.mpr (Nat.mul_lt_mul_right hc)
  have heq : (2 * (num % den) * c == den * c) = (2 * (num % den) == den) := by
    rw [Bool.eq_iff_iff, beq_iff_eq, beq_iff_eq]
    exact Nat.mul_right_cancel_iff hc
  unfold roundToEven
  dsimp only
  rw [Nat.mul_div_mul_right num den hc, Nat.mul_mod_mul_right, htwice, hlt, heq]

theorem nearest_mul_right (num den : Nat) {c : Nat} (hc : 0 < c) :
    nearest (num * c) (den * c) = nearest num den := by
  unfold nearest
  dsimp only
  rw [Nat.mul_div_mul_right num den hc, Nat.mul_right_comm, roundToEven_mul_right _ _ hc]

theorem units_pos {m : Nat} (h : 0 < m) : 0 < units m := by
  unfold units
  split
  · exact h
  · next e _ => exact Nat.mul_pos (Nat.add_pos_left (by decide) _) (Nat.two_pow_pos e)

/-- Rounding keeps what is a double already. -/
theorem nearest_units {m : Nat} (h : m < infiniteMagnitude) : nearest (units m) 1 = m := by
  have hm : m / Nat.pow 2 52 * Nat.pow 2 52 + m % Nat.pow 2 52 = m := Nat.div_add_mod' m _
  have hfraction : m % Nat.pow 2 52 < Nat.pow 2 52 := Nat.mod_lt m (by decide)
  obtain ⟨e, hlog, hround⟩ : ∃ e, (units m).log2 - 52 = e ∧
      e * Nat.pow 2 52 + roundToEven (units m) (1 * Nat.pow 2 e) = m := by
    unfold units
    split
    · next hzero =>
      rw [hzero, Nat.zero_mul, Nat.zero_add] at hm
      have hlog : m.log2 < 53 := by
        by_cases hne : m = 0
        · rw [hne, Nat.log2_zero]
          decide
        · refine (Nat.log2_lt hne).mpr (Nat.lt_trans (hm ▸ hfraction) ?_)
          decide
      refine ⟨0, by omega, ?_⟩
      rw [Nat.zero_mul, Nat.zero_add]
      simpa using roundToEven_mul m Nat.one_pos
    · next e he =>
      refine ⟨e, ?_, ?_⟩
      · have hlog : ((Nat.pow 2 52 + m % Nat.pow 2 52) * Nat.pow 2 e).log2 = 52 + e := by
          refine (Nat.log2_eq_iff ?_).mpr ⟨?_, ?_⟩
          · exact Nat.ne_of_gt (Nat.mul_pos (Nat.add_pos_left (by decide) _) (Nat.two_pow_pos e))
          · rw [Nat.pow_add]
            exact Nat.mul_le_mul_right _ (Nat.le_add_right _ _)
          · rw [Nat.add_right_comm, Nat.pow_add]
            exact Nat.mul_lt_mul_of_pos_right (Nat.add_lt_add_left hfraction _) (Nat.two_pow_pos e)
        rw [hlog, Nat.add_sub_cancel_left]
      · have hround : roundToEven ((Nat.pow 2 52 + m % Nat.pow 2 52) * Nat.pow 2 e) (Nat.pow 2 e) =
            Nat.pow 2 52 + m % Nat.pow 2 52 := roundToEven_mul _ (Nat.two_pow_pos e)
        rw [Nat.one_mul, hround, ← Nat.add_assoc, ← Nat.succ_mul, ← he]
        exact hm
  unfold nearest
  dsimp only
  rw [Nat.div_one, hlog, hround]
  exact Nat.min_eq_right (Nat.le_of_lt h)

theorem IsExact.nearest_lt {n : Nat} (h : IsExact n) : nearest n 1 < infiniteMagnitude := by
  obtain ⟨m, hm, rfl⟩ := h
  rwa [nearest_units hm]

theorem IsExact.units_nearest {n : Nat} (h : IsExact n) : units (nearest n 1) = n := by
  obtain ⟨m, hm, rfl⟩ := h
  rw [nearest_units hm]

theorem isExact_units {m : Nat} (h : m < infiniteMagnitude) : IsExact (units m) := ⟨m, h, rfl⟩

/-- A double has 53 binary places. -/
theorem isExact_mul_two_pow {n e : Nat} (hn : n < 2 ^ 53) (he : e ≤ 2045) :
    IsExact (n * 2 ^ e) := by
  induction e generalizing n with
  | zero =>
    rw [Nat.pow_zero, Nat.mul_one]
    refine ⟨n, Nat.lt_of_lt_of_le hn (by decide), ?_⟩
    have hsplit := Nat.div_add_mod' n (Nat.pow 2 52)
    unfold units
    split
    · rfl
    · next e he =>
      have hone : e = 0 := by
        have hlt : n / Nat.pow 2 52 < 2 := Nat.div_lt_of_lt_mul hn
        omega
      subst hone
      rw [he] at hsplit
      simpa using hsplit
  | succ e ih =>
    by_cases hsmall : n < 2 ^ 52
    · rw [Nat.pow_succ', ← Nat.mul_assoc]
      exact ih (by omega) (by omega)
    · -- the leading place is used, so the exponent field is `e + 2`
      have hfraction : n - 2 ^ 52 < 2 ^ 52 := by omega
      obtain ⟨m, hm⟩ : ∃ m, (e + 2) * 2 ^ 52 + (n - 2 ^ 52) = m := ⟨_, rfl⟩
      have hfield : m / Nat.pow 2 52 = e + 1 + 1 := by
        rw [Nat.pow_eq]
        omega
      have hplaces : Nat.pow 2 52 + m % Nat.pow 2 52 = n := by
        rw [Nat.pow_eq]
        omega
      refine ⟨m, ?_, ?_⟩
      · rw [infiniteMagnitude, Nat.pow_eq]
        omega
      · unfold units
        rw [hfield, hplaces]
        rfl

/-- Twice a number that is at most 1 is a double. -/
theorem isExact_two_mul_units {m : Nat} (h : m ≤ 0x3FF * Nat.pow 2 52) : IsExact (2 * units m) := by
  have hfraction : m % Nat.pow 2 52 < Nat.pow 2 52 := Nat.mod_lt m (by decide)
  have hfield : m / Nat.pow 2 52 ≤ 0x3FF := Nat.div_le_of_le_mul (Nat.mul_comm _ _ ▸ h)
  unfold units
  split
  · next hzero =>
    have hm : 2 * m < 2 ^ 53 := by
      rw [Nat.pow_eq] at hzero
      omega
    have hdouble := isExact_mul_two_pow (e := 0) hm (Nat.zero_le _)
    rwa [Nat.pow_zero, Nat.mul_one] at hdouble
  · next e he =>
    have hplaces : Nat.pow 2 52 + m % Nat.pow 2 52 < 2 ^ 53 := Nat.add_lt_add_left hfraction _
    have hdouble := isExact_mul_two_pow (e := e + 1) hplaces (by omega)
    rwa [Nat.pow_succ', Nat.mul_left_comm] at hdouble

/-! ## Sums of copies -/

section Copies

variable {v : Binary64}

theorem isNaN_of_isFinite (h : v.isFinite = true) : v.isNaN = false :=
  decide_eq_false (Nat.not_lt.mpr (Nat.le_of_lt (of_decide_eq_true h)))

theorem isInfinite_of_isFinite (h : v.isFinite = true) : v.isInfinite = false :=
  beq_eq_false_iff_ne.mpr (Nat.ne_of_lt (of_decide_eq_true h))

/-- A sum of finite numbers is rounded once. -/
theorem add_of_isFinite {x y : Binary64} {n : Nat} (hx : x.isFinite = true) (hy : y.isFinite = true)
    (hsum : x.signedUnits + y.signedUnits = n) (hn : 0 < n) : x + y = ⟨false, nearest n 1⟩ := by
  change add x y = _
  have hne : x.signedUnits + y.signedUnits ≠ 0 := by omega
  simp only [add, isNaN_of_isFinite hx, isNaN_of_isFinite hy, isInfinite_of_isFinite hx,
    isInfinite_of_isFinite hy, Bool.or_self, Bool.false_eq_true, if_false, if_neg hne]
  rw [hsum, ofSignedUnits, Int.natAbs_natCast]
  simp

theorem signedUnits_of_not_negative {m : Nat} : signedUnits ⟨false, m⟩ = units m := rfl

/-- A sum of copies whose partial sums are exact is exact. -/
theorem sum_replicate {u : Nat} (hv : v.isFinite = true) (hunits : v.signedUnits = u) (hu : 0 < u)
    {n : Nat} (hexact : ∀ j ≤ n, IsExact (j * u)) (hn : 0 < n) :
    sum (List.replicate n v) = ⟨false, nearest (n * u) 1⟩ := by
  induction n with
  | zero => exact absurd hn (Nat.lt_irrefl 0)
  | succ n ih =>
    rw [List.replicate_succ', sum, List.foldl_append, List.foldl_cons, List.foldl_nil]
    change sum (List.replicate n v) + v = _
    have hpos : 0 < (n + 1) * u := Nat.mul_pos hn hu
    by_cases hzero : n = 0
    · subst hzero
      have hnone : (sum (List.replicate 0 v)).signedUnits = 0 := by
        rw [List.replicate_zero]
        decide
      refine add_of_isFinite rfl hv ?_ hpos
      rw [hnone, hunits, Int.zero_add, Nat.zero_add, Nat.one_mul]
    · have hbefore : IsExact (n * u) := hexact n (Nat.le_succ n)
      rw [ih (fun j hj => hexact j (Nat.le_succ_of_le hj)) (Nat.pos_of_ne_zero hzero)]
      refine add_of_isFinite (decide_eq_true hbefore.nearest_lt) hv ?_ hpos
      rw [signedUnits_of_not_negative, hbefore.units_nearest, hunits, Nat.succ_mul]
      exact (Int.natCast_add _ _).symm

/-- A count of at most 53 binary places is a double. -/
theorem isExact_count {n : Nat} (h : n < 2 ^ 53) : IsExact (n * unitsPerOne) := by
  obtain ⟨e, he, hunits⟩ := exists_unitsPerOne
  rw [hunits]
  exact isExact_mul_two_pow h (by omega)

/-- Where all multiples are doubles, the mean of copies is the number itself. -/
theorem mean_replicate_of_exact {n : Nat} (hv : v.isFinite = true) (hzero : zero.lt v = true)
    (hexact : ∀ j ≤ n, IsExact (j * units v.magnitude)) (hn : 0 < n) (hn' : n < 2 ^ 53) :
    sum (List.replicate n v) / ofNat n = v := by
  obtain ⟨-, -, hrank⟩ := lt_iff.mp hzero
  obtain ⟨negative, m⟩ := v
  obtain rfl : negative = false := by
    cases negative with
    | false => rfl
    | true => exact absurd hrank (by simp [rank, zero])
  have hm : 0 < m := by simpa [rank, zero] using hrank
  have hfinite : m < infiniteMagnitude := of_decide_eq_true hv
  have hu : 0 < units m := units_pos hm
  have hcount := isExact_count hn'
  have hone : 0 < unitsPerOne := Nat.lt_of_lt_of_le (by decide) le_unitsPerOne
  rw [sum_replicate hv rfl hu hexact hn]
  change div _ _ = _
  have hsumFinite : isFinite ⟨false, nearest (n * units m) 1⟩ = true :=
    decide_eq_true (hexact n (Nat.le_refl n)).nearest_lt
  have hcountFinite : (ofNat n).isFinite = true := decide_eq_true hcount.nearest_lt
  have hcountUnits : units (ofNat n).magnitude = n * unitsPerOne := hcount.units_nearest
  simp only [div, isNaN_of_isFinite hsumFinite, isNaN_of_isFinite hcountFinite,
    isInfinite_of_isFinite hsumFinite, isInfinite_of_isFinite hcountFinite, isZero_ofNat hn,
    Bool.or_self, Bool.false_eq_true, if_false]
  have hquotient : nearest (units m * (n * unitsPerOne)) (1 * (n * unitsPerOne)) = m := by
    rw [nearest_mul_right _ _ (Nat.mul_pos hn hone), nearest_units hfinite]
  rw [Nat.one_mul] at hquotient
  rw [hcountUnits, (hexact n (Nat.le_refl n)).units_nearest, Nat.mul_right_comm,
    Nat.mul_comm _ (units m), hquotient]
  rfl

end Copies

/-! ## Means of zeros -/

theorem isZero_iff {x : Binary64} : x.isZero = true ↔ x.magnitude = 0 := beq_iff_eq

theorem isZero_add {x y : Binary64} (hx : x.isZero = true) (hy : y.isZero = true) :
    (x + y).isZero = true := by
  obtain ⟨a, x⟩ := x
  obtain ⟨b, y⟩ := y
  obtain rfl : x = 0 := isZero_iff.mp hx
  obtain rfl : y = 0 := isZero_iff.mp hy
  cases a <;> cases b <;> rfl

theorem isZero_sum {xs : List Binary64} (h : ∀ x ∈ xs, x.isZero = true) :
    (sum xs).isZero = true := by
  -- the sum so far is a zero too
  suffices hall : ∀ start : Binary64, start.isZero = true →
      (xs.foldl (· + ·) start).isZero = true from hall ⟨true, 0⟩ rfl
  induction xs with
  | nil => exact fun start hstart => hstart
  | cons x xs ih =>
    obtain ⟨hx, hxs⟩ := List.forall_mem_cons.mp h
    exact fun start hstart => ih hxs _ (isZero_add hstart hx)

theorem isZero_div {x y : Binary64} (hx : x.isZero = true) (hnan : y.isNaN = false)
    (hy : y.isZero = false) : (x / y).isZero = true := by
  obtain ⟨negative, m⟩ := x
  obtain rfl : m = 0 := isZero_iff.mp hx
  have hfinite : isFinite ⟨negative, 0⟩ = true := rfl
  change (div _ y).isZero = true
  simp only [div, isNaN_of_isFinite hfinite, isInfinite_of_isFinite hfinite, hnan, hy,
    Bool.or_self, Bool.false_eq_true, if_false]
  split
  · rfl
  · have hunits : 0 < units y.magnitude :=
      units_pos (Nat.pos_of_ne_zero fun h => Bool.false_ne_true (hy.symm.trans (isZero_iff.mpr h)))
    rw [units_zero, Nat.zero_mul, nearest_zero hunits]
    rfl

/-- The mean of zeros is zero. -/
theorem isZero_mean_replicate {z : Binary64} (hz : z.isZero = true) {n : Nat} (hn : 0 < n) :
    (sum (List.replicate n z) / ofNat n).isZero = true := by
  have hsum : (sum (List.replicate n z)).isZero = true :=
    isZero_sum fun x hx => (List.eq_of_mem_replicate hx) ▸ hz
  exact isZero_div hsum (isNaN_ofNat n) (isZero_ofNat hn)

/-- Nothing that is not negative is below a zero. -/
theorem lt_eq_false_of_isZero {x z : Binary64} (hz : z.isZero = true) (hx : zero.le x = true) :
    x.lt z = false := by
  obtain ⟨-, -, hrank⟩ := le_iff.mp hx
  refine Bool.eq_false_iff.mpr fun hlt => ?_
  obtain ⟨-, -, hbelow⟩ := lt_iff.mp hlt
  rw [rank_of_isZero hz] at hbelow
  exact absurd hrank (Int.not_le.mpr hbelow)

end ProgramRepair.Binary64
