import Mathlib.Data.List.TakeWhile
import ProgramRepair.Json.Codec
import ProgramRepair.Proofs.Binary64.Mean

/-!
# Reading what was written

The readers of the parts of a JSON text take back what was written, whatever stands behind it.
`Follows` says what can stand behind a value: nothing, or what a list or an object goes on with.
Main statements:

* `string_stringText`: a string is read from its text with all its escapes;
* `number_toString`: a whole number of 64 bits is read from its digits;
* `localAt_number`: what is read of a number does not depend on what stands behind it.
-/

namespace ProgramRepair.Json

/-! ## What stands around a value -/

/-- A character that can stand behind a value. -/
def endsValue (c : Char) : Bool := c = ',' || c = ']' || c = '\x7d' || c = '\n'

/-- A text that can stand behind a value. -/
def Follows (rest : List Char) : Prop := ∀ c, rest.head? = some c → endsValue c = true

theorem follows_nil : Follows [] := nofun

theorem follows_cons {c : Char} (h : endsValue c = true) (rest : List Char) :
    Follows (c :: rest) := by
  intro d hd
  obtain rfl := Option.some.inj hd
  exact h

/-- Only blanks. -/
def IsBlank (s : List Char) : Prop := ∀ c ∈ s, Reader.isSpace c = true

theorem isBlank_nil : IsBlank [] := nofun

theorem isBlank_gap (style : Value.Style) (depth : Nat) : IsBlank (style.gap depth) := by
  intro c hc
  cases style with
  | compact => cases hc
  | pretty =>
    rcases List.mem_cons.mp hc with rfl | hc
    · rfl
    · rw [List.eq_of_mem_replicate hc]
      rfl

/-- A gap does not hide that a value is over. -/
theorem follows_gap (style : Value.Style) (depth : Nat) {rest : List Char} (h : Follows rest) :
    Follows (style.gap depth ++ rest) := by
  cases style with
  | compact => exact h
  | pretty => exact follows_cons rfl _

namespace Reader

variable {α β : Type} {r : Reader α} {f : α → Reader β} {a : α} {b : β} {c : Char}
  {blanks rest s s' s'' : List Char}

/-! ## Running a reader -/

theorem bind_of_ok (h : r s = (.ok a, s')) : (r >>= f) s = f a s' := by
  show (match r s with | (x, s') => ExceptT.bindCont f x s') = _
  rw [h]
  rfl

theorem map_of_ok {g : α → β} (h : r s = (.ok a, s')) : (g <$> r) s = (.ok (g a), s') := by
  rw [map_eq_pure_bind]
  exact bind_of_ok h

theorem placed_of_ok (h : r s = (.ok a, s')) : placed r s = (.ok a, s') := by
  rw [placed, h]

/-- Only what the reader does matters to where its errors are placed. -/
theorem placed_congr {r' : Reader α} (h : r s = r' s') : placed r s = placed r' s' := by
  rw [placed, placed, h]

theorem of_placed_ok (h : placed r s = (.ok a, s')) : r s = (.ok a, s') := by
  unfold placed at h
  split at h
  · cases h
  · exact h

theorem closedBy_of_ok {closing : Reader Unit} (h : r s = (.ok a, s'))
    (hclosing : closing s' = (.ok (), s'')) : closedBy r closing s = (.ok a, s'') := by
  rw [closedBy, h]
  dsimp only
  rw [hclosing]

/-- A reader that succeeds has succeeded at each of its steps. -/
theorem exists_of_bind_ok (h : (r >>= f) s = (.ok b, s'')) :
    ∃ a s', r s = (.ok a, s') ∧ f a s' = (.ok b, s'') := by
  have hrun : (match r s with | (x, s') => ExceptT.bindCont f x s') = (.ok b, s'') := h
  rcases hr : r s with ⟨x, s'⟩
  rw [hr] at hrun
  cases x with
  | error e => cases hrun
  | ok a => exact ⟨a, s', rfl, hrun⟩

theorem peek_eq (s : List Char) : peek s = (.ok s.head?, s) := rfl

theorem skip_cons (c : Char) (s : List Char) : skip (c :: s) = (.ok (), s) := rfl

theorem get_eq (s : List Char) : (get : Reader (List Char)) s = (.ok s, s) := rfl

theorem peekToken_cons (hblanks : IsBlank blanks) (hc : isSpace c = false) :
    peekToken (blanks ++ c :: s) = (.ok (some c), c :: s) := by
  have hdrop : (blanks ++ c :: s).dropWhile isSpace = c :: s := by
    rw [List.dropWhile_append_of_pos hblanks, List.dropWhile_cons_of_neg (by simp [hc])]
  have hmodify : (modify (·.dropWhile isSpace) : Reader Unit) (blanks ++ c :: s) =
      (.ok (), c :: s) := congrArg (fun t => (Except.ok (), t)) hdrop
  exact bind_of_ok hmodify

theorem peekValue_cons (hblanks : IsBlank blanks) (hc : isSpace c = false) :
    peekValue (blanks ++ c :: s) = (.ok c, c :: s) := bind_of_ok (peekToken_cons hblanks hc)

theorem word_append (cs rest : List Char) : word cs (cs ++ rest) = (.ok (), rest) := by
  induction cs with
  | nil => rfl
  | cons c cs ih =>
    refine (bind_of_ok (peek_eq _)).trans ?_
    show (if c = c then (do skip; word cs : Reader Unit) else _) (c :: (cs ++ rest)) = _
    rw [if_pos rfl]
    exact (bind_of_ok (skip_cons _ _)).trans ih

/-! ## Strings -/

theorem hexValue_hexDigit : ∀ n < 16, hexValue? (Value.hexDigit n) = some n := by decide

theorem length_le_byteCount (s : List Char) : s.length ≤ byteCount s := by
  have hfold : ∀ (n : Nat) (s : List Char), n + s.length ≤ s.foldl (fun n c => n + c.utf8Size) n := by
    intro n s
    induction s generalizing n with
    | nil => exact Nat.le_refl n
    | cons c s ih =>
      have hc := Char.utf8Size_pos c
      have hrest := ih (n + c.utf8Size)
      simp only [List.length_cons, List.foldl_cons]
      omega
  have hzero := hfold 0 s
  rwa [Nat.zero_add] at hzero

/-- The escape of a control character. -/
theorem unicodeEscape_control (h : c.toNat < 32) (rest : List Char) :
    unicodeEscape ('0' :: '0' :: Value.hexDigit (c.toNat / 16) :: Value.hexDigit (c.toNat % 16) ::
      rest) = (.ok c, rest) := by
  have hhigh := hexValue_hexDigit (c.toNat / 16) (by omega)
  have hlow := hexValue_hexDigit (c.toNat % 16) (by omega)
  have hzero : hexValue? '0' = some 0 := by decide
  have hvalue : 16 * (c.toNat / 16) + c.toNat % 16 = c.toNat := Nat.div_add_mod _ _
  have hhex : hexEscape ('0' :: '0' :: Value.hexDigit (c.toNat / 16) ::
      Value.hexDigit (c.toNat % 16) :: rest) = (.ok c.toNat, rest) := by
    refine (bind_of_ok (get_eq _)).trans ?_
    rw [if_neg (Nat.not_lt.mpr (Nat.le_trans (by simp) (length_le_byteCount _)))]
    simp only [List.take_succ_cons, List.take_zero, List.mapM_cons, List.mapM_nil, hhigh, hlow,
      hzero]
    show (Except.ok (16 * (16 * (16 * (16 * 0 + 0) + 0) + c.toNat / 16) + c.toNat % 16), rest) = _
    simp only [Nat.mul_zero, Nat.zero_add, hvalue]
  refine (bind_of_ok hhex).trans ?_
  rw [if_neg (by omega), if_pos (Or.inl (by omega)), Char.ofNat_toNat]
  rfl

/-- The text of a character is the character or an escape that stands for it. -/
theorem escapedChar_cases (c : Char) :
    (Value.escapedChar c = [c] ∧ c ≠ '\x22' ∧ c ≠ '\\' ∧ ¬ c.toNat < 32) ∨
      ∃ text, Value.escapedChar c = '\\' :: text ∧
        ∀ rest, escape (text ++ rest) = (.ok c, rest) := by
  have hletter : ∀ d, d ≠ 'u' → escapes.lookup d = some c →
      ∀ rest, escape ([d] ++ rest) = (.ok c, rest) := by
    intro d hd hlookup rest
    refine (bind_of_ok (peek_eq _)).trans ?_
    simp only [List.cons_append, List.nil_append, List.head?_cons]
    rw [hlookup]
    rfl
  have hnat : ∀ d : Char, c.toNat = d.toNat → c = d := fun d h => Char.toNat_inj.mp h
  unfold Value.escapedChar
  split
  · next h => subst h; exact .inr ⟨['\x22'], rfl, hletter _ (by decide) rfl⟩
  · next hquote =>
    split
    · next h => subst h; exact .inr ⟨['\\'], rfl, hletter _ (by decide) rfl⟩
    · next hslash =>
      split
      · next h =>
        obtain rfl := hnat '\x08' h
        exact .inr ⟨['b'], rfl, hletter _ (by decide) rfl⟩
      · split
        · next h =>
          obtain rfl := hnat '\x0c' h
          exact .inr ⟨['f'], rfl, hletter _ (by decide) rfl⟩
        · split
          · next h => subst h; exact .inr ⟨['n'], rfl, hletter _ (by decide) rfl⟩
          · split
            · next h => subst h; exact .inr ⟨['r'], rfl, hletter _ (by decide) rfl⟩
            · split
              · next h => subst h; exact .inr ⟨['t'], rfl, hletter _ (by decide) rfl⟩
              · split
                · next h => exact .inr ⟨_, rfl, fun rest => unicodeEscape_control h rest⟩
                · next h => exact .inl ⟨rfl, hquote, hslash, h⟩

/-- The induction is on the characters; each takes one unit of fuel, however long its text is. -/
theorem stringTail_flatMap (cs : List Char) {fuel : Nat} (hfuel : cs.length < fuel)
    (rest : List Char) :
    stringTail fuel (cs.flatMap Value.escapedChar ++ '\x22' :: rest) = (.ok cs, rest) := by
  induction cs generalizing fuel with
  | nil =>
    obtain ⟨fuel, rfl⟩ := Nat.exists_eq_add_of_lt hfuel
    rfl
  | cons c cs ih =>
    obtain ⟨fuel, rfl⟩ : ∃ n, fuel = n + 1 := ⟨fuel - 1, by omega⟩
    have htail := ih (show cs.length < fuel by simpa using hfuel)
    rw [List.flatMap_cons, List.append_assoc]
    rcases escapedChar_cases c with ⟨htext, hquote, hslash, hcontrol⟩ | ⟨text, htext, hescape⟩
    · rw [htext]
      refine (bind_of_ok (peek_eq _)).trans ?_
      simp only [List.cons_append, List.nil_append, List.head?_cons]
      rw [if_neg hcontrol]
      exact (bind_of_ok (skip_cons _ _)).trans (bind_of_ok htail)
    · rw [htext]
      refine (bind_of_ok (peek_eq _)).trans ?_
      refine (bind_of_ok (skip_cons _ _)).trans ?_
      exact (bind_of_ok (hescape _)).trans (bind_of_ok htail)

theorem length_le_flatMap_escapedChar (cs : List Char) :
    cs.length ≤ (cs.flatMap Value.escapedChar).length := by
  induction cs with
  | nil => exact Nat.le_refl _
  | cons c cs ih =>
    have hc : 1 ≤ (Value.escapedChar c).length := by
      rcases escapedChar_cases c with ⟨htext, -⟩ | ⟨text, htext, -⟩
      · rw [htext]
        exact Nat.le_refl 1
      · rw [htext]
        exact Nat.le_add_left 1 _
    rw [List.flatMap_cons, List.length_append, List.length_cons]
    omega

/-- A string is read from its text. -/
theorem string_stringText (key : String) (rest : List Char) :
    string (Value.stringText key.toList ++ rest) = (.ok key, rest) := by
  have htext : Value.stringText key.toList ++ rest =
      '\x22' :: (key.toList.flatMap Value.escapedChar ++ '\x22' :: rest) := by
    simp [Value.stringText]
  rw [htext]
  refine (bind_of_ok (skip_cons _ _)).trans ?_
  refine (bind_of_ok (get_eq _)).trans ?_
  have hfuel : key.toList.length <
      (key.toList.flatMap Value.escapedChar ++ '\x22' :: rest).length + 1 := by
    have hlength := length_le_flatMap_escapedChar key.toList
    rw [List.length_append]
    omega
  refine (bind_of_ok (stringTail_flatMap key.toList hfuel rest)).trans ?_
  rw [String.ofList_toList]
  rfl

/-! ## Whole numbers -/

theorem endsValue_cases (h : endsValue c = true) : c = ',' ∨ c = ']' ∨ c = '\x7d' ∨ c = '\n' := by
  simpa [endsValue, or_assoc] using h

/-- Nothing that ends a value goes on with a number. -/
theorem ne_of_endsValue (h : endsValue c = true) :
    c.isDigit = false ∧ c ≠ '.' ∧ c ≠ 'e' ∧ c ≠ 'E' := by
  rcases endsValue_cases h with rfl | rfl | rfl | rfl <;> decide

/-- Digits are read up to what is none. -/
theorem digits_append {ds : List Char} (hds : ∀ d ∈ ds, d.isDigit = true)
    (hrest : ∀ c, rest.head? = some c → c.isDigit = false) :
    digits (ds ++ rest) = (.ok ds, rest) := by
  have htake : (ds ++ rest).takeWhile Char.isDigit = ds := by
    rw [List.takeWhile_append_of_pos hds]
    cases rest with
    | nil => simp
    | cons c rest => simp [hrest c rfl]
  have hdrop : (ds ++ rest).dropWhile Char.isDigit = rest := by
    rw [List.dropWhile_append_of_pos hds]
    cases rest with
    | nil => rfl
    | cons c rest => simp [hrest c rfl]
  refine (bind_of_ok (get_eq _)).trans ?_
  rw [htake, hdrop]
  rfl

/-- A significand that fits takes all its digits. -/
theorem absorb_of_le {ds : List Char} {start : Nat}
    (h : Nat.ofDigitChars 10 ds start ≤ largestSignificand) :
    absorb start ds = (Nat.ofDigitChars 10 ds start, ds.length, 0) := by
  have hgrows : ∀ (ds : List Char) (start : Nat), start ≤ Nat.ofDigitChars 10 ds start := by
    intro ds
    induction ds with
    | nil => exact fun start => Nat.le_refl start
    | cons d ds ih =>
      intro start
      rw [Nat.ofDigitChars_cons]
      exact Nat.le_trans (by omega) (ih _)
  induction ds generalizing start with
  | nil => rfl
  | cons d ds ih =>
    rw [Nat.ofDigitChars_cons] at h ⊢
    have hnext : ¬ largestSignificand < 10 * start + (d.toNat - '0'.toNat) :=
      Nat.not_lt.mpr (Nat.le_trans (hgrows ds _) h)
    rw [absorb]
    dsimp only
    rw [if_neg hnext, ih h]
    rfl

/-- Only zero is written with a leading zero. -/
theorem head_toDigits {n : Nat} (h : 0 < n) (ds : List Char) : Nat.toDigits 10 n ≠ '0' :: ds := by
  induction n using Nat.strongRecOn generalizing ds with
  | ind n ih =>
    by_cases hn : n < 10
    · rw [Nat.toDigits_of_lt_base hn]
      have hchar : ∀ n < 10, 0 < n → Nat.digitChar n ≠ '0' := by decide
      intro heq
      exact hchar n hn h (List.cons.inj heq).1
    · rw [Nat.toDigits_of_base_le (by decide) (by omega)]
      intro heq
      rcases hfirst : Nat.toDigits 10 (n / 10) with _ | ⟨d, tail⟩
      · exact Nat.toDigits_ne_nil hfirst
      · rw [hfirst] at heq
        obtain rfl := (List.cons.inj heq).1
        exact ih (n / 10) (by omega) (by omega) tail hfirst

/-- A whole number is read from its digits. -/
theorem unsignedNumber_toDigits {n : Nat} (hn : n ≤ largestSignificand) (negative : Bool)
    (hneg : negative = true → 0 < n ∧ n ≤ Nat.pow 2 63) (hrest : Follows rest) :
    unsignedNumber negative (Nat.toDigits 10 n ++ rest) =
      (.ok (.integer (if negative then - (n : Int) else n)), rest) := by
  have hdigit : ∀ d ∈ Nat.toDigits 10 n, d.isDigit = true :=
    fun d hd => Nat.isDigit_of_mem_toDigits (by decide) (by decide) hd
  have hends : ∀ c, rest.head? = some c → c.isDigit = false ∧ c ≠ '.' ∧ c ≠ 'e' ∧ c ≠ 'E' :=
    fun c hc => ne_of_endsValue (hrest c hc)
  have hdigits : digits (Nat.toDigits 10 n ++ rest) = (.ok (Nat.toDigits 10 n), rest) :=
    digits_append hdigit fun c hc => (hends c hc).1
  have hvalue : Nat.ofDigitChars 10 (Nat.toDigits 10 n) 0 = n :=
    Nat.ofDigitChars_toDigits (by decide) (by decide)
  have habsorb := absorb_of_le (hvalue.symm ▸ hn : Nat.ofDigitChars 10 (Nat.toDigits 10 n) 0 ≤ _)
  rw [hvalue] at habsorb
  rcases htext : Nat.toDigits 10 n with _ | ⟨d, ds⟩
  · exact absurd htext Nat.toDigits_ne_nil
  rw [htext] at hdigits habsorb hdigit
  have hlead : ¬ (d = '0' ∧ 1 < (d :: ds).length) := by
    rintro ⟨rfl, hlength⟩
    by_cases hzero : n = 0
    · subst hzero
      rw [Nat.toDigits_zero] at htext
      rw [← htext] at hlength
      exact absurd hlength (by decide)
    · exact head_toDigits (Nat.pos_of_ne_zero hzero) ds htext
  refine (bind_of_ok (peek_eq _)).trans ?_
  show (if (!d.isDigit) = true then failNext Cause.invalidNumber else _ : Reader Number) _ = _
  rw [if_neg (by simp [hdigit d List.mem_cons_self])]
  refine (bind_of_ok hdigits).trans ?_
  rw [if_neg hlead, habsorb]
  have hbig : ¬ (negative = true ∧ (n = 0 ∨ Nat.pow 2 63 < n)) := by
    rintro ⟨hnegative, hout⟩
    have hbounds := hneg hnegative
    omega
  have hwhole : (if 0 ≠ 0 then scaled negative n (0 : Nat)
      else if negative = true ∧ (n = 0 ∨ Nat.pow 2 63 < n) then
        pure (.float (- Binary64.ofNat n))
      else pure (.integer (if negative then - (n : Int) else n)) : Reader Number) rest =
      (.ok (.integer (if negative then - (n : Int) else n)), rest) := by
    rw [if_neg (by simp), if_neg hbig]
    rfl
  refine (bind_of_ok (peek_eq _)).trans ?_
  -- no point and no exponent follows
  cases rest with
  | nil => exact hwhole
  | cons c rest =>
    rcases endsValue_cases (hrest c rfl) with rfl | rfl | rfl | rfl <;> exact hwhole

/-- The text of a whole number: a sign if it is negative, and digits. -/
theorem toList_toString_int (n : Int) :
    (toString n).toList = (if n < 0 then ['-'] else []) ++ Nat.toDigits 10 n.natAbs := by
  rw [Int.toString_eq_repr]
  cases n with
  | ofNat m =>
    rw [if_neg (show ¬ Int.ofNat m < 0 from Int.not_lt.mpr (Int.natCast_nonneg m))]
    exact Nat.toList_repr
  | negSucc m =>
    rw [if_pos (Int.negSucc_lt_zero m)]
    show ("-" ++ m.succ.repr).toList = _
    rw [String.toList_append, Nat.toList_repr]
    rfl

/-- The first character of a number tells it from everything else. -/
def startsNumber (c : Char) : Bool := c = '-' || c.isDigit

theorem exists_toString_int (n : Int) :
    ∃ c text, (toString n).toList = c :: text ∧ startsNumber c = true := by
  rw [toList_toString_int]
  by_cases hn : n < 0
  · exact ⟨'-', _, by rw [if_pos hn]; rfl, rfl⟩
  · rw [if_neg hn]
    rcases hdigits : Nat.toDigits 10 n.natAbs with _ | ⟨d, ds⟩
    · exact absurd hdigits Nat.toDigits_ne_nil
    · have hd : d.isDigit = true := by
        refine Nat.isDigit_of_mem_toDigits (b := 10) (n := n.natAbs) (by decide) (by decide) ?_
        rw [hdigits]
        exact List.mem_cons_self
      exact ⟨d, ds, rfl, by simp [startsNumber, hd]⟩

/-- Without a minus sign there is nothing to pass over. -/
theorem number_of_ne (h : c ≠ '-') : number (c :: s) = unsignedNumber false (c :: s) := by
  refine (bind_of_ok (peek_eq _)).trans (congrFun ?_ _)
  split
  · next heq => exact absurd (Option.some.inj heq) h
  · rfl

/-- A whole number is read from its text. -/
theorem number_toString {n : Int} (hlow : -(Nat.pow 2 63 : Int) ≤ n)
    (hhigh : n ≤ (largestSignificand : Int)) (hrest : Follows rest) :
    number ((toString n).toList ++ rest) = (.ok (.integer n), rest) := by
  have hlimits : Nat.pow 2 63 ≤ largestSignificand := by decide
  rw [toList_toString_int]
  by_cases hn : n < 0
  · rw [if_pos hn]
    refine (bind_of_ok (peek_eq _)).trans ?_
    refine (bind_of_ok (skip_cons _ _)).trans ?_
    have hread := unsignedNumber_toDigits (n := n.natAbs) (by omega) true (fun _ => by omega) hrest
    have hvalue : (if true = true then -(n.natAbs : Int) else n.natAbs) = n := by
      rw [if_pos rfl]
      omega
    rwa [hvalue] at hread
  · rw [if_neg hn, List.nil_append]
    have hread := unsignedNumber_toDigits (n := n.natAbs) (by omega) false nofun hrest
    have hvalue : (if false = true then -(n.natAbs : Int) else n.natAbs) = n := by
      rw [if_neg Bool.false_ne_true]
      omega
    rw [hvalue] at hread
    rcases hdigits : Nat.toDigits 10 n.natAbs with _ | ⟨d, ds⟩
    · exact absurd hdigits Nat.toDigits_ne_nil
    · rw [hdigits] at hread
      have hd : d ≠ '-' := by
        rintro rfl
        have hdash : '-'.isDigit = true := by
          refine Nat.isDigit_of_mem_toDigits (b := 10) (n := n.natAbs) (by decide) (by decide) ?_
          rw [hdigits]
          exact List.mem_cons_self
        cases hdash
      exact (number_of_ne hd).trans hread

/-! ## What follows a number -/

/-- What a reader reads of a text stands at its front and is the same whatever can follow. -/
def LocalAt (r : Reader α) (s : List Char) : Prop :=
  ∀ a s', r s = (.ok a, s') →
    s' <:+ s ∧ ∀ rest, Follows rest → r (s ++ rest) = (.ok a, s' ++ rest)

theorem localAt_pure : LocalAt (pure a) s := by
  rintro a' s' h
  cases h
  exact ⟨List.suffix_refl s, fun rest _ => rfl⟩

theorem localAt_failHere {cause : Cause} : LocalAt (failHere cause : Reader α) s := nofun

theorem localAt_failNext {cause : Cause} : LocalAt (failNext cause : Reader α) s := nofun

theorem localAt_bind (hr : LocalAt r s) (hf : ∀ a s', r s = (.ok a, s') → LocalAt (f a) s') :
    LocalAt (r >>= f) s := by
  intro b s'' h
  obtain ⟨a, s', hfirst, hsecond⟩ := exists_of_bind_ok h
  obtain ⟨hsuffix, hread⟩ := hr a s' hfirst
  obtain ⟨hsuffix', hread'⟩ := hf a s' hfirst b s'' hsecond
  exact ⟨hsuffix'.trans hsuffix, fun rest hrest =>
    (bind_of_ok (hread rest hrest)).trans (hread' rest hrest)⟩

theorem localAt_placed (hr : LocalAt r s) : LocalAt (placed r) s := by
  intro a s' h
  obtain ⟨hsuffix, hread⟩ := hr a s' (of_placed_ok h)
  exact ⟨hsuffix, fun rest hrest => placed_of_ok (hread rest hrest)⟩

theorem localAt_skip : LocalAt skip (c :: s) := by
  intro a s' h
  cases h
  exact ⟨List.suffix_cons c s, fun rest _ => rfl⟩

theorem localAt_skip_bind {f : Unit → Reader β} (hf : LocalAt (f ()) s) :
    LocalAt (skip >>= f) (c :: s) := by
  refine localAt_bind localAt_skip ?_
  intro a s' h
  cases h
  exact hf

/-- Looking at the next character is local unless the text is over. -/
theorem localAt_peek_bind {f : Option Char → Reader β} (hcons : LocalAt (f (some c)) (c :: s)) :
    LocalAt (peek >>= f) (c :: s) := hcons

/-- At the end of the text, what can follow must do nothing else. -/
theorem localAt_peek_bind_nil {f : Option Char → Reader β} (hnil : LocalAt (f none) [])
    (hends : ∀ c, endsValue c = true → f (some c) = f none) : LocalAt (peek >>= f) [] := by
  intro b s' h
  obtain ⟨hsuffix, hread⟩ := hnil b s' h
  refine ⟨hsuffix, ?_⟩
  intro rest hrest
  refine (bind_of_ok (peek_eq _)).trans ?_
  have hnext : f ([] ++ rest).head? = f none := by
    cases rest with
    | nil => rfl
    | cons c rest => exact hends c (hrest c rfl)
  rw [hnext]
  exact hread rest hrest

theorem localAt_digits : LocalAt digits s := by
  intro ds s' h
  have hds : ds = s.takeWhile Char.isDigit := by cases h; rfl
  have hs' : s' = s.dropWhile Char.isDigit := by cases h; rfl
  have hsplit : ds ++ s' = s := by rw [hds, hs', List.takeWhile_append_dropWhile]
  refine ⟨⟨ds, hsplit⟩, ?_⟩
  intro rest hrest
  rw [← hsplit, List.append_assoc]
  refine digits_append ?_ ?_
  · intro d hd
    rw [hds] at hd
    exact List.mem_takeWhile_imp hd
  · intro c hc
    cases s' with
    | nil => exact (ne_of_endsValue (hrest c hc)).1
    | cons d s' =>
      obtain rfl := Option.some.inj hc
      have hhead := List.head?_dropWhile_not Char.isDigit s
      rw [← hs'] at hhead
      simpa using hhead

/-- Scaling reads nothing. -/
theorem localAt_scaled (negative : Bool) (significand : Nat) (exponent : Int) :
    LocalAt (scaled negative significand exponent) s := by
  unfold scaled
  dsimp only
  have hdone : ∀ x : Binary64, LocalAt (do
      let magnitude ← pure x
      return .float ⟨negative, magnitude.magnitude⟩ : Reader Number) s :=
    fun x => localAt_bind localAt_pure fun a s' _ => localAt_pure
  have hout : LocalAt (do
      let magnitude ← failHere .numberOutOfRange
      return .float ⟨negative, Binary64.magnitude magnitude⟩ : Reader Number) s :=
    localAt_bind localAt_failHere fun a s' _ => localAt_pure
  split
  · exact hdone _
  · split
    · split
      · exact hout
      · exact hdone _
    · split
      · exact hdone _
      · exact hout

/-- A reader that looks at the whole text is local if only the digits at its front matter. -/
theorem localAt_get_bind {f : List Char → Reader β} (g : List Char → Reader β)
    (hg : ∀ ds t, LocalAt (g ds) t)
    (hf : ∀ s b s', f s s = (.ok b, s') ↔
      g (s.takeWhile Char.isDigit) (s.dropWhile Char.isDigit) = (.ok b, s')) :
    LocalAt (get >>= f) s := by
  have hdigits : LocalAt (digits >>= g) s := localAt_bind localAt_digits fun ds t _ => hg ds t
  intro b s'' h
  obtain ⟨hsuffix, hread⟩ := hdigits b s'' ((hf s b s'').mp h)
  exact ⟨hsuffix, fun rest hrest => (hf _ b _).mpr (hread rest hrest)⟩

/-- The digits of an exponent, once its sign was read. -/
theorem localAt_exponentDigits (negative down : Bool) (significand : Nat) (start : Int) :
    LocalAt (do
      match ← peek with
      | none => failHere .endInValue
      | some c =>
        if !c.isDigit then failNext .invalidNumber
        else
          let s ← get
          let ds := s.takeWhile Char.isDigit
          match (List.range ds.length).find? fun k =>
              largestExponent < Binary64.digitsValue (ds.take (k + 1)) with
          | some k =>
            if significand ≠ 0 ∧ !down then
              set (s.drop (k + 1))
              failHere .numberOutOfRange
            else
              set (s.dropWhile Char.isDigit)
              return .float ⟨negative, 0⟩
          | none =>
            set (s.dropWhile Char.isDigit)
            let e : Int := Binary64.digitsValue ds
            scaled negative significand
              (clampExponent (if down then start - e else start + e)) : Reader Number) s := by
  cases s with
  | nil => exact nofun
  | cons c s =>
    refine localAt_peek_bind ?_
    dsimp only
    split
    · exact localAt_failNext
    · refine localAt_get_bind (fun ds =>
        match (List.range ds.length).find? fun k =>
            largestExponent < Binary64.digitsValue (ds.take (k + 1)) with
        | some _ =>
          if significand ≠ 0 ∧ !down then failHere .numberOutOfRange
          else return .float ⟨negative, 0⟩
        | none => scaled negative significand (clampExponent
            (if down then start - Binary64.digitsValue ds
            else start + Binary64.digitsValue ds))) ?_ ?_
      · intro ds t
        split
        · split
          · exact localAt_failHere
          · exact localAt_pure
        · exact localAt_scaled _ _ _
      · intro s b s'
        cases (List.range (s.takeWhile Char.isDigit).length).find? fun k => decide
            (largestExponent < Binary64.digitsValue ((s.takeWhile Char.isDigit).take (k + 1))) with
        | none => exact Iff.rfl
        | some k =>
          dsimp only
          split
          · exact iff_of_false nofun nofun
          · exact Iff.rfl

theorem localAt_exponentPart (negative : Bool) (significand : Nat) (start : Int) :
    LocalAt (exponentPart negative significand start) (c :: s) := by
  unfold exponentPart
  refine localAt_skip_bind ?_
  cases s with
  | nil => exact nofun
  | cons c s =>
    refine localAt_peek_bind ?_
    split
    · exact localAt_skip_bind (localAt_exponentDigits negative false significand start)
    · exact localAt_skip_bind (localAt_exponentDigits negative true significand start)
    · exact localAt_exponentDigits negative false significand start

theorem localAt_afterDigits (negative : Bool) (significand : Nat) (exponent : Int) :
    LocalAt (afterDigits negative significand exponent) s := by
  unfold afterDigits
  cases s with
  | nil =>
    refine localAt_peek_bind_nil (localAt_scaled _ _ _) ?_
    intro c hc
    split
    · next heq => exact absurd (Option.some.inj heq) (ne_of_endsValue hc).2.2.1
    · next heq => exact absurd (Option.some.inj heq) (ne_of_endsValue hc).2.2.2
    · rfl
  | cons c s =>
    refine localAt_peek_bind ?_
    split
    · exact localAt_exponentPart _ _ _
    · exact localAt_exponentPart _ _ _
    · exact localAt_scaled _ _ _

theorem localAt_fractionPart (negative : Bool) (significand : Nat) (exponent : Int) :
    LocalAt (fractionPart negative significand exponent) (c :: s) := by
  unfold fractionPart
  refine localAt_skip_bind ?_
  refine localAt_bind localAt_digits ?_
  intro ds s' hds
  split
  · intro a s'' h
    obtain ⟨next, _, hpeek, hfail⟩ := exists_of_bind_ok h
    cases next <;> cases hfail
  · exact localAt_afterDigits _ _ _

theorem localAt_unsignedNumber (negative : Bool) : LocalAt (unsignedNumber negative) s := by
  unfold unsignedNumber
  cases s with
  | nil => exact nofun
  | cons c s =>
    refine localAt_peek_bind ?_
    dsimp only
    split
    · exact localAt_failNext
    · refine localAt_bind localAt_digits ?_
      intro ds s' hds
      split
      · -- a leading zero
        intro a s'' h
        obtain ⟨_, _, _, hfail⟩ := exists_of_bind_ok h
        cases hfail
      · rcases absorb 0 ds with ⟨significand, taken, left⟩
        dsimp only
        have hwhole : ∀ t, LocalAt (if left ≠ 0 then scaled negative significand left
            else if negative = true ∧ (significand = 0 ∨ Nat.pow 2 63 < significand) then
              return .float (- Binary64.ofNat significand)
            else return .integer (if negative then - (significand : Int) else significand)) t := by
          intro t
          split
          · exact localAt_scaled _ _ _
          · split
            · exact localAt_pure
            · exact localAt_pure
        cases s' with
        | nil =>
          refine localAt_peek_bind_nil (hwhole []) ?_
          intro c hc
          rcases endsValue_cases hc with rfl | rfl | rfl | rfl <;> rfl
        | cons c s' =>
          refine localAt_peek_bind ?_
          split
          · exact localAt_fractionPart _ _ _
          · exact localAt_exponentPart _ _ _
          · exact localAt_exponentPart _ _ _
          · exact hwhole _

theorem localAt_number : LocalAt number s := by
  unfold number
  cases s with
  | nil => exact nofun
  | cons c s =>
    refine localAt_peek_bind ?_
    split
    · exact localAt_skip_bind (localAt_unsignedNumber true)
    · exact localAt_unsignedNumber false

end Reader

/-! ## The text of a double -/

/-- A character of a number. -/
def inNumber (c : Char) : Bool := c.isDigit || ['.', 'e', '+', '-'].contains c

theorem isSpace_of_inNumber {c : Char} (h : inNumber c = true) : Reader.isSpace c = false := by
  have hspaces : ([' ', '\n', '\t', '\r'].all fun d => !inNumber d) = true := by decide
  rw [Bool.eq_false_iff]
  intro hspace
  have hmem : c ∈ [' ', '\n', '\t', '\r'] := by
    simpa [Reader.isSpace, or_assoc] using hspace
  have hnot := List.all_eq_true.mp hspaces c hmem
  rw [h] at hnot
  cases hnot

/-- A text that begins with a digit and goes on with characters of a number. -/
structure IsNumeral (s : List Char) : Prop where
  head : ∃ c, s.head? = some c ∧ c.isDigit = true
  inNumber : ∀ c ∈ s, inNumber c = true

theorem inNumber_of_isDigit {c : Char} (h : c.isDigit = true) : inNumber c = true := by
  simp [inNumber, h]

/-- More of a number makes a number of a number. -/
theorem IsNumeral.append {s t : List Char} (hs : IsNumeral s)
    (ht : ∀ c ∈ t, Json.inNumber c = true) : IsNumeral (s ++ t) where
  head := by
    obtain ⟨c, hc, hdigit⟩ := hs.head
    exact ⟨c, by rw [List.head?_append, hc]; rfl, hdigit⟩
  inNumber c hc := by
    rcases List.mem_append.mp hc with hc | hc
    · exact hs.inNumber c hc
    · exact ht c hc

theorem isNumeral_of_digits {ds : List Char} (hne : ds ≠ []) (h : ∀ d ∈ ds, d.isDigit = true) :
    IsNumeral ds where
  head := by
    obtain ⟨d, rest, rfl⟩ := List.exists_cons_of_ne_nil hne
    exact ⟨d, rfl, h d List.mem_cons_self⟩
  inNumber d hd := inNumber_of_isDigit (h d hd)

theorem isNumeral_positionalText (keepPoint : Bool) {ds : List Char} (hne : ds ≠ [])
    (h : ∀ d ∈ ds, d.isDigit = true) (exponent : Int) :
    IsNumeral (Binary64.positionalText keepPoint ds exponent) := by
  have hzeros : ∀ n, ∀ c ∈ List.replicate n '0', inNumber c = true := by
    intro n c hc
    rw [List.eq_of_mem_replicate hc]
    rfl
  have hdigits : ∀ d ∈ ds, inNumber d = true := fun d hd => inNumber_of_isDigit (h d hd)
  unfold Binary64.positionalText
  split
  · refine ((isNumeral_of_digits hne h).append (hzeros _)).append ?_
    split
    · exact List.all_eq_true.mp (by decide)
    · nofun
  · dsimp only
    split
    · next hplaces =>
      -- there are digits before the point
      have htake : ds.take (ds.length - (-exponent).toNat) ≠ [] := by
        intro hnil
        have hlength := congrArg List.length hnil
        rw [List.length_take, List.length_nil] at hlength
        omega
      refine (isNumeral_of_digits htake fun d hd => h d (List.mem_of_mem_take hd)).append ?_
      intro c hc
      rcases List.mem_cons.mp hc with rfl | hc
      · rfl
      · exact hdigits c (List.mem_of_mem_drop hc)
    · have hstart : IsNumeral ['0', '.'] := ⟨⟨'0', rfl, rfl⟩, List.all_eq_true.mp (by decide)⟩
      refine (hstart.append (t := List.replicate _ '0' ++ ds) ?_)
      intro c hc
      rcases List.mem_append.mp hc with hc | hc
      · exact hzeros _ c hc
      · exact hdigits c hc

theorem isNumeral_scientificText {ds : List Char} (hne : ds ≠ [])
    (h : ∀ d ∈ ds, d.isDigit = true) (first : Int) :
    IsNumeral (Binary64.scientificText "+" ds first) := by
  have hfirst : ∀ d ∈ Nat.toDigits 10 first.natAbs, inNumber d = true := fun d hd =>
    inNumber_of_isDigit (Nat.isDigit_of_mem_toDigits (by decide) (by decide) hd)
  unfold Binary64.scientificText
  dsimp only
  refine IsNumeral.append (IsNumeral.append ?_ ?_) hfirst
  · split
    · next d e rest =>
      have hd : IsNumeral [d] := isNumeral_of_digits (List.cons_ne_nil d []) fun d' hd' => by
        obtain rfl := List.mem_singleton.mp hd'
        exact h d' List.mem_cons_self
      refine hd.append (t := '.' :: e :: rest) ?_
      intro c hc
      rcases List.mem_cons.mp hc with rfl | hc
      · rfl
      · exact inNumber_of_isDigit (h c (List.mem_cons_of_mem d hc))
    · exact isNumeral_of_digits hne h
  · split <;> exact List.all_eq_true.mp (by decide)

theorem isNumeral_magnitudeText (magnitude : Nat) :
    IsNumeral (Binary64.magnitudeText .json magnitude) := by
  unfold Binary64.magnitudeText
  split
  · exact isNumeral_positionalText _ (by decide) (List.all_eq_true.mp (by decide)) 0
  · have hne : ∀ n, Nat.toDigits 10 n ≠ [] := fun n => Nat.toDigits_ne_nil
    have hdigits : ∀ n, ∀ d ∈ Nat.toDigits 10 n, d.isDigit = true := fun n d hd =>
      Nat.isDigit_of_mem_toDigits (by decide) (by decide) hd
    have hboth : ∀ (inBounds : Bool) (n : Nat) (exponent first : Int), IsNumeral
        (if inBounds then Binary64.positionalText true (Nat.toDigits 10 n) exponent
        else Binary64.scientificText "+" (Nat.toDigits 10 n) first) := by
      intro inBounds n exponent first
      split
      · exact isNumeral_positionalText _ (hne n) (hdigits n) exponent
      · exact isNumeral_scientificText (hne n) (hdigits n) first
    exact hboth _ _ _ _

/-- The text of a finite double begins as a number does, and there is no blank in it. -/
theorem exists_floatText {x : Binary64} (h : x.isFinite = true) :
    ∃ c text, Value.floatText x = c :: text ∧ Reader.startsNumber c = true ∧
      ∀ d ∈ Value.floatText x, Reader.isSpace d = false := by
  have hnumeral := isNumeral_magnitudeText x.magnitude
  have htext : Value.floatText x =
      (if x.negative then ['-'] else []) ++ Binary64.magnitudeText .json x.magnitude := by
    have hnan : x.isNaN = false := Binary64.isNaN_of_isFinite h
    have hinfinite : x.isInfinite = false := Binary64.isInfinite_of_isFinite h
    rw [Value.floatText, if_pos h, Binary64.text, hnan, hinfinite]
    simp
  have hblank : ∀ d ∈ Value.floatText x, Reader.isSpace d = false := by
    intro d hd
    rw [htext] at hd
    rcases List.mem_append.mp hd with hd | hd
    · split at hd
      · rw [List.mem_singleton.mp hd]
        rfl
      · cases hd
    · exact isSpace_of_inNumber (hnumeral.inNumber d hd)
  rw [htext] at hblank ⊢
  obtain ⟨c, hc, hdigit⟩ := hnumeral.head
  obtain ⟨text, hcons⟩ := List.head?_eq_some_iff.mp hc
  cases hneg : x.negative with
  | true => exact ⟨'-', _, rfl, rfl, by simpa [hneg] using hblank⟩
  | false => exact ⟨c, text, hcons, by simp [Reader.startsNumber, hdigit], by simpa [hneg] using hblank⟩

end ProgramRepair.Json
