import ProgramRepair.Text.Utf8

/-!
# Text survives being stored

`decode_encode`: the bytes of a text are decoded to the text.
-/

namespace ProgramRepair.Text

variable {n x bits : Nat} {bytes : Bytes}

theorem toNat_ofNat (h : n < 256) : (UInt8.ofNat n).toNat = n := by
  rw [UInt8.toNat_ofNat']
  exact Nat.mod_eq_of_lt h

/-- A byte with six more bits of a character. -/
theorem follow_succ {low high : UInt8} (hlow : low.toNat ≤ x + 0x80) (hhigh : x + 0x80 ≤ high.toNat)
    (hx : x < 64) (following : Nat) :
    follow low high bits (following + 1) (UInt8.ofNat (x + 0x80) :: bytes) =
      follow 0x80 0xBF (bits * 64 + x) following bytes := by
  have hbyte : (UInt8.ofNat (x + 0x80)).toNat = x + 0x80 := toNat_ofNat (by omega)
  have hin : low ≤ UInt8.ofNat (x + 0x80) ∧ UInt8.ofNat (x + 0x80) ≤ high := by
    rw [UInt8.le_iff_toNat_le, UInt8.le_iff_toNat_le, hbyte]
    exact ⟨hlow, hhigh⟩
  rw [follow, if_pos hin, hbyte, Nat.add_sub_cancel]

/-- The last bytes of a character can be any that go on with one. -/
theorem follow_tail (hx : x < 64) (following : Nat) :
    follow 0x80 0xBF bits (following + 1) (UInt8.ofNat (x + 0x80) :: bytes) =
      follow 0x80 0xBF (bits * 64 + x) following bytes := by
  have hlow : (0x80 : UInt8).toNat = 0x80 := rfl
  have hhigh : (0xBF : UInt8).toNat = 0xBF := rfl
  exact follow_succ (by omega) (by omega) hx following

/-- A step takes what a lead byte announces. -/
theorem step_of_lead {b : UInt8} {l : Lead} {rest : Bytes} {c : Char} (hlead : lead? b = some l)
    (hfollow : follow l.low l.high l.bits l.following bytes = (some c.toNat, rest)) :
    step b bytes = (some c, rest) := by
  rw [step, hlead]
  dsimp only
  rw [hfollow, Option.map_some, Char.ofNat_toNat]

/-- There is a gap among the numbers of characters. -/
theorem toNat_valid (c : Char) : c.toNat < 0xD800 ∨ 0xDFFF < c.toNat ∧ c.toNat < 0x110000 := c.valid

/-- The lead byte of three bytes: after two of them the range of the next one is smaller. -/
theorem lead_three (hx : x < 16) : ∃ low high,
    lead? (UInt8.ofNat (x + 0xE0)) = some ⟨x, 2, low, high⟩ ∧
    low.toNat ≤ (if x = 0 then 0xA0 else 0x80) ∧ (if x = 13 then 0x9F else 0xBF) ≤ high.toNat := by
  have hbyte : (UInt8.ofNat (x + 0xE0)).toNat = x + 0xE0 := toNat_ofNat (by omega)
  rw [lead?, hbyte, if_neg (by omega), if_neg (by omega), if_neg (by omega)]
  by_cases hzero : x = 0
  · subst hzero
    exact ⟨0xA0, 0xBF, rfl, by decide, by decide⟩
  by_cases hgap : x = 13
  · subst hgap
    exact ⟨0x80, 0x9F, rfl, by decide, by decide⟩
  · rw [if_neg (by omega), if_neg (by omega), if_pos (by omega), Nat.add_sub_cancel, if_neg hzero,
      if_neg hgap]
    exact ⟨0x80, 0xBF, rfl, by decide, by decide⟩

/-- The lead byte of four bytes. -/
theorem lead_four (hx : x < 5) : ∃ low high,
    lead? (UInt8.ofNat (x + 0xF0)) = some ⟨x, 3, low, high⟩ ∧
    low.toNat ≤ (if x = 0 then 0x90 else 0x80) ∧ (if x = 4 then 0x8F else 0xBF) ≤ high.toNat := by
  have hbyte : (UInt8.ofNat (x + 0xF0)).toNat = x + 0xF0 := toNat_ofNat (by omega)
  rw [lead?, hbyte, if_neg (by omega), if_neg (by omega), if_neg (by omega), if_neg (by omega),
    if_neg (by omega), if_neg (by omega)]
  by_cases hzero : x = 0
  · subst hzero
    exact ⟨0x90, 0xBF, rfl, by decide, by decide⟩
  by_cases hlast : x = 4
  · subst hlast
    exact ⟨0x80, 0x8F, rfl, by decide, by decide⟩
  · rw [if_neg (by omega), if_pos (by omega), Nat.add_sub_cancel, if_neg hzero, if_neg hlast]
    exact ⟨0x80, 0xBF, rfl, by decide, by decide⟩

/-- A character is read from its bytes. The cases are the numbers of bytes. -/
theorem step_utf8EncodeChar (c : Char) (rest : Bytes) :
    ∃ b bytes, String.utf8EncodeChar c = b :: bytes ∧ step b (bytes ++ rest) = (some c, rest) := by
  have hvalid := toNat_valid c
  unfold String.utf8EncodeChar
  dsimp only
  rw [show c.val.toNat = c.toNat from rfl]
  split
  · next hone =>
    refine ⟨_, _, rfl, step_of_lead (l := ⟨c.toNat, 0, 0x80, 0xBF⟩) ?_ rfl⟩
    rw [lead?, toNat_ofNat (by omega), if_pos (by omega)]
  split
  · next hmore htwo =>
    rw [Nat.mod_eq_of_lt (show c.toNat / 64 < 0x20 by omega)]
    refine ⟨_, _, rfl, step_of_lead (l := ⟨c.toNat / 64, 1, 0x80, 0xBF⟩) ?_ ?_⟩
    · rw [lead?, toNat_ofNat (by omega), if_neg (by omega), if_neg (by omega), if_pos (by omega),
        Nat.add_sub_cancel]
    · refine (follow_tail (x := c.toNat % 64) (by omega) 0).trans ?_
      rw [follow, show c.toNat / 64 * 64 + c.toNat % 64 = c.toNat by omega]
      rfl
  split
  · next hmore htwo hthree =>
    obtain ⟨low, high, hlead, hlow, hhigh⟩ := lead_three (x := c.toNat / 4096) (by omega)
    rw [Nat.mod_eq_of_lt (show c.toNat / 4096 < 0x10 by omega)]
    refine ⟨_, _, rfl, step_of_lead hlead ?_⟩
    refine (follow_succ (x := c.toNat / 64 % 64) ?_ ?_ (by omega) 1).trans ?_
    · refine Nat.le_trans hlow ?_
      split <;> omega
    · refine Nat.le_trans ?_ hhigh
      split <;> omega
    · refine (follow_tail (x := c.toNat % 64) (by omega) 0).trans ?_
      rw [follow, show (c.toNat / 4096 * 64 + c.toNat / 64 % 64) * 64 + c.toNat % 64 =
        c.toNat by omega]
      rfl
  · next hmore htwo hthree =>
    obtain ⟨low, high, hlead, hlow, hhigh⟩ := lead_four (x := c.toNat / 262144) (by omega)
    rw [Nat.mod_eq_of_lt (show c.toNat / 262144 < 0x08 by omega)]
    refine ⟨_, _, rfl, step_of_lead hlead ?_⟩
    refine (follow_succ (x := c.toNat / 4096 % 64) ?_ ?_ (by omega) 2).trans ?_
    · refine Nat.le_trans hlow ?_
      split <;> omega
    · refine Nat.le_trans ?_ hhigh
      split <;> omega
    · refine (follow_tail (x := c.toNat / 64 % 64) (by omega) 1).trans ?_
      refine (follow_tail (x := c.toNat % 64) (by omega) 0).trans ?_
      rw [follow, show ((c.toNat / 262144 * 64 + c.toNat / 4096 % 64) * 64 + c.toNat / 64 % 64) * 64 +
        c.toNat % 64 = c.toNat by omega]
      rfl

theorem decode_encode (s : List Char) : decode? (encode s) = some s := by
  induction s with
  | nil => rw [encode, List.flatMap_nil, decode?]
  | cons c s ih =>
    obtain ⟨b, bytes, hbytes, hstep⟩ := step_utf8EncodeChar c (encode s)
    have hencode : encode (c :: s) = b :: (bytes ++ encode s) := by
      rw [encode, List.flatMap_cons, hbytes]
      rfl
    rw [hencode, decode?, hstep]
    dsimp only
    rw [ih]
    rfl

end ProgramRepair.Text
