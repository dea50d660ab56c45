import ProgramRepair.Random.Stream

/-!
# Draws stay in their range, and seeds apart

A number below `n` is the upper half of a word times `n`, so it is below `n`
whichever words a stream gives and however many of them are passed over. A choice
from a list is a member of the list.

The seeds that are derived from a master seed are all different. An odd number has
an inverse among the words of 64 bits, so multiplying by it loses nothing, and
neither does combining the product with the master seed.
-/

namespace ProgramRepair.Stream

theorem draw_lt (s : Stream) (width : Width) : (s.draw width).1 < Nat.pow 2 width.bits := by
  cases width with
  | single => exact s.word.1.toNat_lt
  | double => exact s.doubleWord.1.toNat_lt

/-- The upper half of a product with `n` is below `n`. -/
theorem mul_div_lt {bits n v : Nat} (hn : 0 < n) (hv : v < Nat.pow 2 bits) :
    v * n / Nat.pow 2 bits < n := by
  have hpos : 0 < Nat.pow 2 bits := Nat.pow_pos (by decide : 0 < 2)
  refine (Nat.div_lt_iff_lt_mul hpos).mpr ?_
  rw [Nat.mul_comm n]
  exact Nat.mul_lt_mul_of_pos_right hv hn

theorem belowWithin_lt (width : Width) {n : Nat} (hn : 0 < n) (fuel : Nat) (s : Stream) :
    (belowWithin width n fuel s).1 < n := by
  induction fuel generalizing s with
  | zero => exact mul_div_lt hn (s.draw_lt width)
  | succ fuel ih =>
    obtain ⟨v, s', hdraw⟩ : ∃ v s', s.draw width = (v, s') := ⟨_, _, rfl⟩
    have hv : v < Nat.pow 2 width.bits := by simpa [hdraw] using s.draw_lt width
    rw [belowWithin, hdraw]
    dsimp only
    split
    · exact mul_div_lt hn hv
    · exact ih s'

/-- A number that is drawn below `n` is below `n`. -/
theorem below_lt (width : Width) {n : Nat} (hn : 0 < n) (s : Stream) : (s.below width n).1 < n :=
  belowWithin_lt width hn patience s

/-- A choice from a list that is not empty is a member of it. -/
theorem exists_choose {α : Type} {items : List α} (hitems : items ≠ []) (s : Stream) :
    ∃ a ∈ items, ∃ s', s.choose items = (some a, s') := by
  have hlt := s.below_lt .single (List.length_pos_iff.mpr hitems)
  cases hbelow : s.below .single items.length with
  | mk i s' =>
    rw [hbelow] at hlt
    refine ⟨items[i], List.getElem_mem hlt, s', ?_⟩
    rw [choose, if_neg (by simpa using hitems), hbelow]
    dsimp only
    rw [List.getElem?_eq_getElem hlt]

theorem mem_of_choose {α : Type} {items : List α} {a : α} {s s' : Stream}
    (h : s.choose items = (some a, s')) : a ∈ items := by
  unfold choose at h
  split at h
  · cases h
  · exact List.mem_of_getElem? (congrArg Prod.fst h)

/-! ## Seeds -/

/-- The word that takes a multiplication by `streamFactor` back. -/
def streamFactorInverse : UInt64 := 0xF1DE83E19937733D

theorem streamFactor_mul_inverse : streamFactor * streamFactorInverse = 1 := by decide

/-- Different streams have different multiples of the factor. -/
theorem mul_streamFactor_inj {a b : UInt64} : a * streamFactor = b * streamFactor ↔ a = b := by
  constructor
  · intro h
    have hback : ∀ x : UInt64, x * streamFactor * streamFactorInverse = x := by
      intro x
      rw [UInt64.mul_assoc, streamFactor_mul_inverse, UInt64.mul_one]
    calc a = a * streamFactor * streamFactorInverse := (hback a).symm
      _ = b * streamFactor * streamFactorInverse := by rw [h]
      _ = b := hback b
  · rintro rfl
    rfl

/-- Different streams of one master seed have different seeds. -/
theorem deriveSeed_inj {seed a b : UInt64} : deriveSeed seed a = deriveSeed seed b ↔ a = b := by
  unfold deriveSeed
  rw [UInt64.xor_right_inj, mul_streamFactor_inj]

theorem deriveSeed_zero (seed : UInt64) : deriveSeed seed 0 = seed := by
  unfold deriveSeed
  rw [UInt64.zero_mul, UInt64.xor_zero]

/-- The master seed is the seed of no other stream. -/
theorem deriveSeed_eq_self_iff {seed a : UInt64} : deriveSeed seed a = seed ↔ a = 0 := by
  have hzero := deriveSeed_zero seed
  constructor
  · intro h
    exact deriveSeed_inj.mp (h.trans hzero.symm)
  · rintro rfl
    exact hzero

end ProgramRepair.Stream
