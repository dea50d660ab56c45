import ProgramRepair.Proofs.Binary64.Monotone
import ProgramRepair.Proofs.Project.Edits

/-!
# Units that are drawn by weight

A draw by weight goes by a line on which each unit has a stretch as long as its weight: from the
sum of the weights before it to the sum with its own. Sums are rounded, but they never get less
when a weight is added, and a zero adds nothing. So a unit without weight has an empty stretch,
wherever it stands. Main statements:

* `point_lt`: the point that is drawn is at least zero and below the sum of all weights;
* `draw_onStretch`: the unit that is drawn is one on whose stretch the point lies;
* `OnStretch.exists_positive`: it has a positive weight;
* `weighted_edits_have_weight`: so no edit that is drawn by weight, and no patch of a search,
  changes a unit without weight, unless no unit of its file has any.
-/

namespace ProgramRepair

open Binary64

/-! ## Products and order -/

namespace Binary64

variable {x y : Binary64}

theorem lt_of_not_le (hx : x.isNaN = false) (hy : y.isNaN = false) (h : x.le y = false) :
    y.lt x = true := by
  refine lt_iff.mpr ⟨hy, hx, Int.not_le.mp ?_⟩
  intro hle
  exact Bool.false_ne_true (h.symm.trans (le_iff.mpr ⟨hx, hy, hle⟩))

/-- A product of finite numbers that are not negative is rounded once. -/
theorem mul_of_not_negative {a b : Nat} (ha : a < infiniteMagnitude) (hb : b < infiniteMagnitude) :
    (⟨false, a⟩ * ⟨false, b⟩ : Binary64) = ⟨false, nearest (units a * units b) unitsPerOne⟩ := by
  have hx : isFinite ⟨false, a⟩ = true := decide_eq_true ha
  have hy : isFinite ⟨false, b⟩ = true := decide_eq_true hb
  change mul ⟨false, a⟩ ⟨false, b⟩ = _
  simp only [mul, isNaN_of_isFinite hx, isNaN_of_isFinite hy, isInfinite_of_isFinite hx,
    isInfinite_of_isFinite hy, Bool.or_self, Bool.false_eq_true, if_false]
  rfl

/-- A factor that is at most 1 leaves a finite number at most as large. -/
theorem nearest_mul_le {a b : Nat} (ha : a ≤ one.magnitude) (hb : b < infiniteMagnitude) :
    nearest (units a * units b) unitsPerOne ≤ b := by
  have hunits : units a ≤ unitsPerOne := units_one ▸ units_mono ha
  calc nearest (units a * units b) unitsPerOne
      ≤ nearest (unitsPerOne * units b) unitsPerOne := nearest_mono (Nat.mul_le_mul_right _ hunits)
    _ = nearest (units b * unitsPerOne) (1 * unitsPerOne) := by rw [Nat.mul_comm, Nat.one_mul]
    _ = nearest (units b) 1 :=
      nearest_mul_right _ _ (Nat.lt_of_lt_of_le (by decide) le_unitsPerOne)
    _ = b := nearest_units hb

end Binary64

/-! ## Sums of weights -/

namespace Project

variable {x y w : Binary64}

/-- What weights come to when they are added up: a weight, or infinity. -/
def IsSum (x : Binary64) : Prop := isWeight x = true ∨ x = infinity

theorem IsSum.isNaN (h : IsSum x) : x.isNaN = false := by
  obtain h | rfl := h
  · exact isNaN_of_isFinite (isWeight_iff.mp h).1
  · rfl

/-- Sums of weights are in the order of their magnitudes. -/
theorem IsSum.rank_eq (h : IsSum x) : x.rank = x.magnitude := by
  obtain h | rfl := h
  · rw [rank]
    split
    · next hnegative => simp [(isWeight_iff.mp h).2 hnegative]
    · rfl
  · rfl

theorem IsSum.add (hx : IsSum x) (hw : isWeight w = true) : IsSum (x + w) := by
  obtain hx | rfl := hx
  · exact isWeight_add hx hw
  · exact .inr (infinity_add hw)

/-- Two weights are added up and rounded. -/
theorem magnitude_add (hx : isWeight x = true) (hw : isWeight w = true) :
    (x + w).magnitude = nearest (units x.magnitude + units w.magnitude) 1 := by
  have hxfinite := (isWeight_iff.mp hx).1
  have hwfinite := (isWeight_iff.mp hw).1
  have hxunits := signedUnits_of_isWeight hx
  have hwunits := signedUnits_of_isWeight hw
  rcases Nat.eq_zero_or_pos (units x.magnitude + units w.magnitude) with hzero | hpos
  · rw [hzero, nearest_zero Nat.one_pos]
    change (add x w).magnitude = 0
    have hnone : x.signedUnits + w.signedUnits = 0 := by omega
    simp only [add, isNaN_of_isFinite hxfinite, isNaN_of_isFinite hwfinite,
      isInfinite_of_isFinite hxfinite, isInfinite_of_isFinite hwfinite, Bool.or_self,
      Bool.false_eq_true, if_false, if_pos hnone]
  · have hsum : x.signedUnits + w.signedUnits = (units x.magnitude + units w.magnitude : Nat) := by
      omega
    rw [add_of_isFinite hxfinite hwfinite hsum hpos]

theorem IsSum.le_add (hx : IsSum x) (hw : isWeight w = true) :
    x.magnitude ≤ (x + w).magnitude := by
  obtain hx | rfl := hx
  · calc x.magnitude
        = nearest (units x.magnitude) 1 :=
          (nearest_units (of_decide_eq_true (isWeight_iff.mp hx).1)).symm
      _ ≤ nearest (units x.magnitude + units w.magnitude) 1 := nearest_mono (Nat.le_add_right _ _)
      _ = (x + w).magnitude := (magnitude_add hx hw).symm
  · rw [infinity_add hw]

/-- A sum is at least its last term. -/
theorem IsSum.term_le_add (hx : IsSum x) (hw : isWeight w = true) :
    w.magnitude ≤ (x + w).magnitude := by
  have hwfinite : w.magnitude < infiniteMagnitude := of_decide_eq_true (isWeight_iff.mp hw).1
  obtain hx | rfl := hx
  · calc w.magnitude
        = nearest (units w.magnitude) 1 := (nearest_units hwfinite).symm
      _ ≤ nearest (units x.magnitude + units w.magnitude) 1 := nearest_mono (Nat.le_add_left _ _)
      _ = (x + w).magnitude := (magnitude_add hx hw).symm
  · rw [infinity_add hw]
    exact Nat.le_of_lt hwfinite

/-- A zero adds nothing. -/
theorem IsSum.add_isZero (hx : IsSum x) (hw : isWeight w = true) (hzero : w.isZero = true) :
    (x + w).magnitude = x.magnitude := by
  obtain hx | rfl := hx
  · rw [magnitude_add hx hw, isZero_iff.mp hzero, units_zero, Nat.add_zero]
    exact nearest_units (of_decide_eq_true (isWeight_iff.mp hx).1)
  · rw [infinity_add hw]

/-- A weight is positive unless it is a zero. -/
theorem isZero_eq_false_iff (hw : isWeight w = true) : w.isZero = false ↔ zero.lt w = true := by
  have hsum : IsSum w := .inl hw
  have hnan : w.isNaN = false := hsum.isNaN
  have hrank : w.rank = w.magnitude := hsum.rank_eq
  rw [Bool.eq_false_iff, ne_eq, isZero_iff]
  constructor
  · intro hne
    refine lt_iff.mpr ⟨rfl, hnan, ?_⟩
    rw [hrank]
    exact Int.ofNat_lt.mpr (Nat.pos_of_ne_zero hne)
  · intro hlt hzero
    obtain ⟨-, -, hlt⟩ := lt_iff.mp hlt
    rw [hrank, hzero] at hlt
    exact Int.lt_irrefl 0 hlt

end Project

/-! ## The line -/

namespace WeightedChoice

open Project

variable {weights ws : List Binary64} {start point : Binary64} {i : Nat} {s s' : Stream}

/-- No sum is less than one before it, or than one of its terms. -/
theorem le_runningSums (hstart : IsSum start) (hws : ∀ w ∈ ws, isWeight w = true) :
    start.magnitude ≤ (runningSums start ws).2.magnitude ∧
      ∀ w ∈ ws, w.magnitude ≤ (runningSums start ws).2.magnitude := by
  induction ws generalizing start with
  | nil => exact ⟨Nat.le_refl _, List.forall_mem_nil _⟩
  | cons w ws ih =>
    obtain ⟨hw, hws⟩ := List.forall_mem_cons.mp hws
    obtain ⟨hbefore, hterms⟩ := ih (hstart.add hw) hws
    exact ⟨Nat.le_trans (hstart.le_add hw) hbefore,
      List.forall_mem_cons.mpr ⟨Nat.le_trans (hstart.term_le_add hw) hbefore, hterms⟩⟩

theorem le_total (hweights : ∀ w ∈ weights, isWeight w = true) :
    ∀ w ∈ weights, w.magnitude ≤ (total weights).magnitude := by
  cases weights with
  | nil => exact List.forall_mem_nil _
  | cons w ws =>
    obtain ⟨hw, hws⟩ := List.forall_mem_cons.mp hweights
    exact List.forall_mem_cons.mpr (le_runningSums (.inl hw) hws)

theorem runningSums_take_succ {j : Nat} {w : Binary64} (hw : ws[j]? = some w) :
    (runningSums start (ws.take (j + 1))).2 = (runningSums start (ws.take j)).2 + w := by
  induction ws generalizing start j with
  | nil => cases hw
  | cons v ws ih =>
    cases j with
    | zero =>
      cases hw
      rfl
    | succ j => exact ih hw

/-- The sum through a unit is the sum before it with its weight. Before the first unit it is zero,
whose sum with a weight may only differ from the weight in the sign of a zero. -/
theorem magnitude_total_take_succ {w : Binary64} (hweights : ∀ w ∈ weights, isWeight w = true)
    (hw : weights[i]? = some w) :
    (total (weights.take (i + 1))).magnitude = (total (weights.take i) + w).magnitude := by
  cases weights with
  | nil => cases hw
  | cons v ws =>
    cases i with
    | zero =>
      obtain rfl : v = w := Option.some.inj hw
      have hv : isWeight v = true := hweights v List.mem_cons_self
      change v.magnitude = (zero + v).magnitude
      rw [magnitude_add (by decide +kernel) hv]
      change v.magnitude = nearest (units 0 + units v.magnitude) 1
      rw [units_zero, Nat.zero_add]
      exact (nearest_units (of_decide_eq_true (isWeight_iff.mp hv).1)).symm
    | succ j => exact congrArg magnitude (runningSums_take_succ hw)

/-- The point lies on the stretch of the unit: beyond the weights before it, or where they end, and
short of where its own weight ends. -/
structure OnStretch (weights : List Binary64) (i : Nat) (point : Binary64) : Prop where
  lt : i < weights.length
  start : (total (weights.take i)).le point = true
  stop : point.lt (total (weights.take (i + 1))) = true

/-- A unit with a stretch has a positive weight. -/
theorem OnStretch.exists_positive (h : OnStretch weights i point)
    (hweights : ∀ w ∈ weights, isWeight w = true) :
    ∃ w, weights[i]? = some w ∧ zero.lt w = true := by
  obtain ⟨w, hw⟩ : ∃ w, weights[i]? = some w := ⟨_, List.getElem?_eq_getElem h.lt⟩
  have hweight : isWeight w = true := hweights w (List.mem_of_getElem? hw)
  refine ⟨w, hw, (isZero_eq_false_iff hweight).mp ?_⟩
  by_contra hzero
  have hbefore : IsSum (total (weights.take i)) :=
    isWeight_total fun w hw => hweights w (List.mem_of_mem_take hw)
  have hthrough : IsSum (total (weights.take (i + 1))) :=
    isWeight_total fun w hw => hweights w (List.mem_of_mem_take hw)
  -- without a weight the stretch would end where it starts
  have hsame : (total (weights.take (i + 1))).magnitude = (total (weights.take i)).magnitude := by
    rw [magnitude_total_take_succ hweights hw]
    exact hbefore.add_isZero hweight (eq_true_of_ne_false hzero)
  obtain ⟨-, -, hstart⟩ := le_iff.mp h.start
  obtain ⟨-, -, hstop⟩ := lt_iff.mp h.stop
  rw [hbefore.rank_eq] at hstart
  rw [hthrough.rank_eq, hsame] at hstop
  omega

/-- Beyond the first weight, the sums that the point has passed tell the stretch that it is on. The
induction is on the weights that are still to be added. -/
theorem exists_stretch (hstart : IsSum start) (hws : ∀ w ∈ ws, isWeight w = true)
    (hbelow : start.le point = true) (habove : point.lt (runningSums start ws).2 = true) :
    ∃ j, ((runningSums start ws).1.takeWhile fun c => c.le point).length = j + 1 ∧
      j < ws.length ∧ (runningSums start (ws.take j)).2.le point = true ∧
      point.lt (runningSums start (ws.take (j + 1))).2 = true := by
  induction ws generalizing start with
  | nil =>
    obtain ⟨-, -, hbelow⟩ := le_iff.mp hbelow
    obtain ⟨-, -, habove⟩ := lt_iff.mp habove
    exact absurd hbelow (Int.not_le.mpr habove)
  | cons w ws ih =>
    obtain ⟨hw, hws⟩ := List.forall_mem_cons.mp hws
    have hnext : IsSum (start + w) := hstart.add hw
    have hsums : (runningSums start (w :: ws)).1 = start :: (runningSums (start + w) ws).1 := rfl
    rw [hsums, List.takeWhile_cons_of_pos (p := fun c : Binary64 => c.le point) hbelow,
      List.length_cons]
    cases hpassed : (start + w).le point with
    | true =>
      obtain ⟨j, hlength, hj, hbefore, hthrough⟩ := ih hnext hws hpassed habove
      exact ⟨j + 1, congrArg (· + 1) hlength, Nat.succ_lt_succ hj, hbefore, hthrough⟩
    | false =>
      have hnone : ((runningSums (start + w) ws).1.takeWhile fun c => c.le point) = [] := by
        cases ws with
        | nil => rfl
        | cons v ws => exact List.takeWhile_cons_of_neg (by simp [hpassed])
      refine ⟨0, ?_, Nat.zero_lt_succ _, hbelow, ?_⟩
      · rw [hnone]
        rfl
      · exact lt_of_not_le hnext.isNaN (isNaN_of_le hbelow).2 hpassed

/-! ## The point -/

theorem exists_largestFraction :
    ∃ m, largestFraction = ⟨false, m⟩ ∧ m ≤ one.magnitude :=
  ⟨0x3FF * Nat.pow 2 52 - 2, by decide +kernel, by decide +kernel⟩

/-- What is drawn is not negative, and at most the largest number below 1 that is. -/
theorem exists_fraction (s : Stream) :
    ∃ a, (fraction s).1 = ⟨false, a⟩ ∧ a ≤ largestFraction.magnitude := by
  obtain ⟨n, hn, hfraction⟩ : ∃ n, n ≤ 2 ^ 52 - 1 ∧
      (fraction s).1 = .ofNat n * ⟨false, (0x3FF - 52) * Nat.pow 2 52⟩ := by
    refine ⟨s.doubleWord.1.toNat / Nat.pow 2 12, ?_, rfl⟩
    have hword : s.doubleWord.1.toNat < 2 ^ 64 := s.doubleWord.1.toNat_lt
    have hshift : s.doubleWord.1.toNat / Nat.pow 2 12 < 2 ^ 52 :=
      (Nat.div_lt_iff_lt_mul (by decide)).mpr hword
    omega
  have hfinite : (ofNat n).magnitude < infiniteMagnitude :=
    Nat.lt_of_le_of_lt (magnitude_ofNat_le (by omega)) (by decide)
  refine ⟨_, hfraction.trans (mul_of_not_negative hfinite (by decide)), ?_⟩
  calc nearest (units (ofNat n).magnitude * units ((0x3FF - 52) * Nat.pow 2 52)) unitsPerOne
      ≤ nearest (units (ofNat (2 ^ 52 - 1)).magnitude * units ((0x3FF - 52) * Nat.pow 2 52))
          unitsPerOne := nearest_mono (Nat.mul_le_mul_right _ (units_mono (ofNat_mono hn)))
    _ = largestFraction.magnitude := by decide +kernel

/-- The point is on the line. -/
theorem point_lt {t : Binary64} (ht : isWeight t = true) (hpos : t.isZero = false) (s : Stream) :
    zero.le ((fraction s).1 * scale t) = true ∧ ((fraction s).1 * scale t).lt t = true := by
  obtain ⟨negative, m⟩ := t
  have hm : 0 < m := Nat.pos_of_ne_zero (beq_eq_false_iff_ne.mp hpos)
  have hfinite : m < infiniteMagnitude := of_decide_eq_true (isWeight_iff.mp ht).1
  obtain rfl : negative = false :=
    Bool.eq_false_iff.mpr fun h => Nat.ne_of_gt hm ((isWeight_iff.mp ht).2 h)
  obtain ⟨a, ha, hale⟩ := exists_fraction s
  obtain ⟨largest, hlargest, hlargestOne⟩ := exists_largestFraction
  rw [hlargest] at hale
  have haone : a ≤ one.magnitude := Nat.le_trans hale hlargestOne
  have hone : one.magnitude < infiniteMagnitude := by decide
  obtain ⟨b, hb, hpoint⟩ : ∃ b, b < m ∧ (fraction s).1 * scale ⟨false, m⟩ = ⟨false, b⟩ := by
    rw [ha, scale, hlargest, mul_of_not_negative hfinite (Nat.lt_of_le_of_lt hlargestOne hone)]
    split
    · next hshort =>
      -- the product with the largest number falls short of the total, and so do the others
      refine ⟨_, ?_, mul_of_not_negative (Nat.lt_of_le_of_lt haone hone) hfinite⟩
      obtain ⟨-, -, hshort⟩ := lt_iff.mp hshort
      calc nearest (units a * units m) unitsPerOne
          ≤ nearest (units m * units largest) unitsPerOne := by
            rw [Nat.mul_comm]
            exact nearest_mono (Nat.mul_le_mul_left _ (units_mono hale))
        _ < m := Int.ofNat_lt.mp hshort
    · have hless : m - 1 < infiniteMagnitude := Nat.lt_of_le_of_lt (Nat.sub_le m 1) hfinite
      refine ⟨_, ?_, mul_of_not_negative (Nat.lt_of_le_of_lt haone hone) hless⟩
      calc nearest (units a * units (m - 1)) unitsPerOne
          ≤ m - 1 := nearest_mul_le haone hless
        _ < m := Nat.sub_lt hm Nat.one_pos
  rw [hpoint]
  have hnan : isNaN ⟨false, b⟩ = false :=
    isNaN_of_isFinite (decide_eq_true (Nat.lt_trans hb hfinite))
  have hnan' : isNaN ⟨false, m⟩ = false := isNaN_of_isFinite (decide_eq_true hfinite)
  exact ⟨le_iff.mpr ⟨rfl, hnan, Int.natCast_nonneg b⟩,
    lt_iff.mpr ⟨hnan, hnan', Int.ofNat_lt.mpr hb⟩⟩

/-! ## Draws -/

/-- The number of sums that a point of the line has passed is the stretch that it is on. -/
theorem onStretch_passed {w : Binary64} {ws : List Binary64}
    (hweights : ∀ x ∈ w :: ws, isWeight x = true) (hnonnegative : zero.le point = true)
    (hbelow : point.lt (total (w :: ws)) = true) :
    OnStretch (w :: ws) ((runningSums w ws).1.takeWhile fun c => c.le point).length point := by
  obtain ⟨hw, hws⟩ := List.forall_mem_cons.mp hweights
  have hfirst : IsSum w := .inl hw
  cases hpassed : w.le point with
  | true =>
    obtain ⟨j, hlength, hj, hbefore, hthrough⟩ := exists_stretch hfirst hws hpassed hbelow
    rw [hlength]
    exact ⟨Nat.succ_lt_succ hj, hbefore, hthrough⟩
  | false =>
    -- the point is on the first stretch, whether or not there is another one
    have hnone : ((runningSums w ws).1.takeWhile fun c => c.le point) = [] := by
      cases ws with
      | nil => rfl
      | cons v ws => exact List.takeWhile_cons_of_neg (by simp [hpassed])
    rw [hnone]
    exact ⟨Nat.zero_lt_succ _, hnonnegative,
      lt_of_not_le hfirst.isNaN (isNaN_of_le hnonnegative).2 hpassed⟩

/-- What is drawn is how many sums a point of the line has passed. -/
theorem exists_point {w : Binary64} {ws : List Binary64}
    (hweights : ∀ x ∈ w :: ws, isWeight x = true) (h : draw (w :: ws) s = .ok (some i, s')) :
    ∃ point, zero.le point = true ∧ point.lt (total (w :: ws)) = true ∧
      i = ((runningSums w ws).1.takeWhile fun c => c.le point).length := by
  obtain ⟨sums, t, hsums⟩ : ∃ sums t, runningSums w ws = (sums, t) := ⟨_, _, rfl⟩
  have htotal : total (w :: ws) = t := congrArg Prod.snd hsums
  rw [draw, hsums] at h
  dsimp only at h
  split at h
  · cases h
  · next hzero =>
    split at h
    · cases h
    · next hfinite =>
      have ht : isWeight t = true := by
        refine (htotal ▸ isWeight_total hweights).resolve_right ?_
        rintro rfl
        exact hfinite rfl
      obtain ⟨hnonnegative, hbelow⟩ := point_lt ht (Bool.eq_false_iff.mpr hzero) s
      rw [hsums, htotal]
      cases h
      exact ⟨_, hnonnegative, hbelow, rfl⟩

/-- The unit that is drawn is the one on whose stretch a point of the line lies. -/
theorem draw_onStretch (hweights : ∀ w ∈ weights, isWeight w = true)
    (h : draw weights s = .ok (some i, s')) :
    ∃ point, zero.le point = true ∧ point.lt (total weights) = true ∧
      OnStretch weights i point := by
  cases weights with
  | nil => cases h
  | cons w ws =>
    obtain ⟨point, hnonnegative, hbelow, rfl⟩ := exists_point hweights h
    exact ⟨point, hnonnegative, hbelow, onStretch_passed hweights hnonnegative hbelow⟩

/-- There is a unit to draw unless all weights are zero. -/
theorem isZero_of_draw_none (hweights : ∀ w ∈ weights, isWeight w = true)
    (h : draw weights s = .ok (none, s')) : ∀ w ∈ weights, w.isZero = true := by
  have htotal : (total weights).magnitude = 0 := by
    cases weights with
    | nil => rfl
    | cons w ws =>
      obtain ⟨sums, t, hsums⟩ : ∃ sums t, runningSums w ws = (sums, t) := ⟨_, _, rfl⟩
      rw [draw, hsums] at h
      dsimp only at h
      split at h
      · next hzero =>
        rw [total, hsums]
        exact isZero_iff.mp hzero
      · split at h
        · cases h
        · cases h
  intro w hw
  have hle := le_total hweights w hw
  exact isZero_iff.mpr (by omega)

end WeightedChoice

/-! ## Edits -/

namespace Project

open Source Search

variable {p : Project}

/-- The unit that the edit changes is one of its file, and it has a positive weight if any unit of
the file has. -/
def TargetsWeight (p : Project) (e : Edit) : Prop :=
  ∃ f, p.files[e.target.file]? = some f ∧ e.target.unit < f.unitCount ∧
    ((∃ w ∈ f.weights, zero.lt w = true) →
      ∃ w, f.weights[e.target.unit]? = some w ∧ zero.lt w = true)

theorem drawTarget_positive {f : File} {s s' : Stream} {u : Nat}
    (hweights : ∀ w ∈ f.weights, isWeight w = true)
    (h : drawTarget f .weighted s = .ok (u, s')) (hpos : ∃ w ∈ f.weights, zero.lt w = true) :
    ∃ w, f.weights[u]? = some w ∧ zero.lt w = true := by
  obtain ⟨⟨drawn, s₁⟩, hdraw, h⟩ := Disk.bind_eq_ok.mp h
  cases drawn with
  | some i =>
    cases h
    obtain ⟨point, -, -, hstretch⟩ := WeightedChoice.draw_onStretch hweights hdraw
    exact hstretch.exists_positive hweights
  | none =>
    obtain ⟨w, hw, hlt⟩ := hpos
    have hzero := WeightedChoice.isZero_of_draw_none hweights hdraw w hw
    have hnot := (isZero_eq_false_iff (hweights w hw)).mpr hlt
    rw [hnot] at hzero
    cases hzero

/-- The unit to change is drawn by weight, whatever the operator. -/
theorem SetUp.targetsWeight (hp : p.SetUp) {op : EditOperator} {s s' : Stream} {e : Edit}
    (h : p.createEdit op .weighted s = .ok (some e, s')) : p.TargetsWeight e := by
  obtain ⟨i, s₁, hchoose⟩ : ∃ i s₁, s.choose p.editableFiles = (i, s₁) := ⟨_, _, rfl⟩
  cases i with
  | none =>
    rw [createEdit, hchoose] at h
    cases h
  | some i =>
    obtain ⟨f, hf, hunits⟩ := mem_editableFiles.mp (Stream.mem_of_choose hchoose)
    have hmem : f ∈ p.files := List.mem_of_getElem? hf
    rw [createEdit_of_choose hchoose hf] at h
    cases htarget : drawTarget f .weighted s₁ with
    | error fault =>
      rw [htarget] at h
      cases h
    | ok drawn =>
      obtain ⟨u, s₂⟩ := drawn
      rw [htarget] at h
      cases h
      have hlt : u < f.unitCount := drawTarget_lt (hp.isSplit f hmem) hunits htarget
      have hpositive := drawTarget_positive (hp.isWeight f hmem) htarget
      cases op with
      | replacement | insertion | deletion => exact ⟨f, hf, hlt, hpositive⟩

/-- Edits of a project that was read and given any weights that were accepted. If the weights of
each file add up, there is always an outcome. An edit that is drawn by weight changes a unit of its
file, and one with a positive weight if the file has any; so does every edit of every patch that a
search over the project evaluates, with any operators, random numbers and length, in any world. -/
theorem weighted_edits_have_weight (hp : p.SetUp) :
    (p.FiniteWeights → ∀ op s, ∃ drawn, p.createEdit op .weighted s = .ok drawn) ∧
    (∀ op s e s', p.createEdit op .weighted s = .ok (some e, s') → p.TargetsWeight e) ∧
    ∀ (σ : Type) (search : Search Edit σ) (observer : Observer σ), search.program.IsOf p →
      ∀ patch, MayEvaluate search observer patch → patch.All p.TargetsWeight := by
  refine ⟨fun hfinite op s => exists_createEdit hfinite op .weighted s,
    fun op s e s' h => hp.targetsWeight h, ?_⟩
  intro σ search observer hprogram patch hpatch
  have hmakes : search.program.Makes p.TargetsWeight := by
    intro op s e s' hedit
    rw [hprogram.createEdit] at hedit
    exact hp.targetsWeight hedit
  exact hpatch.all hmakes

/-! ### Zeros before, between and after positive weights -/

section Spaced

def spacedWeights : List Binary64 := [.zero, .one, .zero, .two, .zero]

/-- A project in which the second and the fourth line have weight, and no others. -/
def spacedProject : Project :=
  ⟨"project", "true", .exitCode,
    [{ File.parse "target" .line "a\nb\nc\nd\ne\n".toList with weights := spacedWeights }]⟩

theorem setUp_spacedProject : spacedProject.SetUp := by
  obtain ⟨p, hload⟩ : ∃ p, p = Project.mk "project" "true" .exitCode
    [.parse "target" .line "a\nb\nc\nd\ne\n".toList] := ⟨_, rfl⟩
  have hread : (load (workspaceWith [(["project", "target"], fileOf "a\nb\nc\nd\ne\n")]).disk []
      (programOf ["target"])).toOption = some p := by
    rw [hload]
    decide +kernel
  have hweights : (p.setWeights "target" spacedWeights).toOption = some spacedProject := by
    rw [hload]
    decide +kernel
  exact .weighted (.loaded (Disk.ok_of_toOption hread)) (Disk.ok_of_toOption hweights)

/-- Whatever random numbers are drawn, only the second and the fourth line are changed; and so it is
with the only line that has weight in a patch that a search evaluates. -/
theorem weighted_edits_of_spacedProject :
    spacedProject.SetUp ∧
    (∀ op s, ∃ e s', spacedProject.createEdit op .weighted s = .ok (some e, s') ∧
      e.target.file = 0 ∧ (e.target.unit = 1 ∨ e.target.unit = 3)) ∧
    weightedProject.SetUp ∧ MayEvaluate (replacing weightedProject) unwatched doubling ∧
    doubling.All weightedProject.TargetsWeight := by
  obtain ⟨-, hedits, -⟩ := weighted_edits_have_weight setUp_spacedProject
  obtain ⟨-, -, hpatches⟩ := weighted_edits_have_weight setUp_weightedProject
  refine ⟨setUp_spacedProject, ?_, setUp_weightedProject, mayEvaluate_doubling,
    hpatches Workspace (replacing weightedProject) unwatched (isOf_program broken _) doubling
      mayEvaluate_doubling⟩
  intro op s
  have hadds : ∀ f ∈ spacedProject.files, WeightedChoice.total f.weights ≠ .infinity := by
    decide +kernel
  obtain ⟨i, s₁, f, -, hf, -, hedit⟩ :=
    setUp_spacedProject.createEdit_of_units (by decide +kernel) op .weighted s
  rw [if_neg fun h => hadds f (List.mem_of_getElem? hf) h.2] at hedit
  obtain ⟨u, v, s', -, -, hedit⟩ := hedit
  obtain ⟨g, hg, -, hweight⟩ := hedits op s _ s' hedit
  refine ⟨_, s', hedit, ?_⟩
  obtain ⟨hi, rfl⟩ := List.getElem?_eq_some_iff.mp hg
  have hfile : (Edit.ofOperator op ⟨i, u⟩ ⟨i, v⟩).target.file = 0 := Nat.lt_one_iff.mp hi
  have hfirst : spacedProject.files[(Edit.ofOperator op ⟨i, u⟩ ⟨i, v⟩).target.file].weights =
      spacedWeights := by
    simp only [hfile]
    rfl
  rw [hfirst] at hweight
  obtain ⟨w, hw, hlt⟩ := hweight ⟨.one, by decide +kernel, by decide +kernel⟩
  have hplaces : ∀ n < spacedWeights.length, (spacedWeights[n]?.any fun w => zero.lt w) = true →
      n = 1 ∨ n = 3 := by
    decide +kernel
  refine ⟨hfile, hplaces _ (List.getElem?_eq_some_iff.mp hw).1 ?_⟩
  rw [hw]
  exact hlt

end Spaced

end Project

end ProgramRepair
