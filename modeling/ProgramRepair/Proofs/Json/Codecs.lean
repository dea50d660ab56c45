import Mathlib.Algebra.Group.Int.Defs
import ProgramRepair.Proofs.Json.Reading

/-!
# Codecs recover what they write

A codec writes a value into the middle of a text, in one of two styles and at some depth, and reads
it from there. `Codec.RoundTrips` says that it reads what it has written and leaves what follows.
Every way to make a codec keeps that, so it goes from simple values to lists and records by itself.
Main statements:

* `Codec.RoundTrips.list`: a list is recovered if its items are;
* `Fields.recovers_object`: a record is recovered if its fields are and have different names;
* `Codec.RoundTrips.decode_eq`: a whole text is decoded to what it was written for.
-/

namespace ProgramRepair.Json

open Reader

variable {α β τ : Type} {a : α} {c : Codec α} {r : Reader α} {v : Value} {n : Int}
  {rest : List Char}

/-- A reader recovers something from the text of a value in both styles, at every depth and
whatever stands around it. -/
def Recovers (r : Reader α) (v : Value) (a : α) : Prop :=
  ∀ (style : Value.Style) (depth : Nat) (blanks rest : List Char), IsBlank blanks → Follows rest →
    r (blanks ++ (v.write style depth ++ rest)) = (.ok a, rest)

/-- A codec reads what it has written. -/
def Codec.RoundTrips (c : Codec α) (a : α) : Prop := Recovers c.read (c.write a) a

/-! ## How values begin -/

/-- A value that is written as null. -/
def Value.isNull : Value → Bool
  | .null => true
  | .float x => !x.isFinite
  | _ => false

theorem ne_of_startsNumber {c : Char} (hc : startsNumber c = true) :
    isSpace c = false ∧ c ≠ ']' ∧ c ≠ 'n' := by
  have hin : inNumber c = true := by
    rcases Bool.or_eq_true_iff.mp hc with hsign | hdigit
    · rw [of_decide_eq_true hsign]
      rfl
    · exact inNumber_of_isDigit hdigit
  refine ⟨isSpace_of_inNumber hin, ?_, ?_⟩
  · rintro rfl
    cases hin
  · rintro rfl
    cases hin

/-- The text of a value begins with a character that is no blank, closes no list and tells null
from other values. -/
theorem exists_write (v : Value) (style : Value.Style) (depth : Nat) :
    ∃ c text, v.write style depth = c :: text ∧ isSpace c = false ∧ c ≠ ']' ∧
      (c = 'n' → v.isNull = true) := by
  cases v with
  | null => exact ⟨'n', _, rfl, rfl, by decide, fun _ => rfl⟩
  | boolean b =>
    cases b
    · exact ⟨'f', _, rfl, rfl, by decide, by decide⟩
    · exact ⟨'t', _, rfl, rfl, by decide, by decide⟩
  | integer n =>
    obtain ⟨c, text, htext, hc⟩ := exists_toString_int n
    obtain ⟨hspace, hclose, hn⟩ := ne_of_startsNumber hc
    exact ⟨c, text, htext, hspace, hclose, fun h => absurd h hn⟩
  | float x =>
    by_cases hx : x.isFinite = true
    · obtain ⟨c, text, htext, hc, -⟩ := exists_floatText hx
      obtain ⟨hspace, hclose, hn⟩ := ne_of_startsNumber hc
      exact ⟨c, text, htext, hspace, hclose, fun h => absurd h hn⟩
    · refine ⟨'n', "ull".toList, ?_, rfl, by decide, fun _ => by simp [Value.isNull, hx]⟩
      show Value.floatText x = _
      rw [Value.floatText, if_neg hx]
      rfl
  | string s => exact ⟨'\x22', _, rfl, rfl, by decide, fun h => absurd h (by decide)⟩
  | array items =>
    cases items
    · exact ⟨'[', _, rfl, rfl, by decide, fun h => absurd h (by decide)⟩
    · exact ⟨'[', _, rfl, rfl, by decide, fun h => absurd h (by decide)⟩
  | object fields =>
    rcases fields with _ | ⟨⟨key, value⟩, fields⟩
    · exact ⟨'\x7b', _, rfl, rfl, by decide, fun h => absurd h (by decide)⟩
    · exact ⟨'\x7b', _, rfl, rfl, by decide, fun h => absurd h (by decide)⟩

/-! ## Simple values -/

theorem recovers_null : Recovers Codec.unit .null () := by
  intro style depth blanks rest hblanks hrest
  exact placed_of_ok ((bind_of_ok (peekValue_cons hblanks rfl)).trans
    ((bind_of_ok (skip_cons _ _)).trans (word_append ['u', 'l', 'l'] rest)))

theorem roundTrips_boolean (b : Bool) : Codec.boolean.RoundTrips b := by
  intro style depth blanks rest hblanks hrest
  refine placed_of_ok ?_
  cases b
  · exact (bind_of_ok (peekValue_cons hblanks rfl)).trans ((bind_of_ok (skip_cons _ _)).trans
      (bind_of_ok (word_append ['a', 'l', 's', 'e'] rest)))
  · exact (bind_of_ok (peekValue_cons hblanks rfl)).trans ((bind_of_ok (skip_cons _ _)).trans
      (bind_of_ok (word_append ['r', 'u', 'e'] rest)))

theorem roundTrips_text (expected s : String) : (Codec.text expected).RoundTrips s := by
  intro style depth blanks rest hblanks hrest
  refine placed_of_ok ?_
  exact (bind_of_ok (peekValue_cons hblanks rfl)).trans (string_stringText s rest)

theorem recovers_wholeNumber (expected : String) {low high : Int} (hlow : low ≤ n) (hhigh : n ≤ high)
    (hlow' : -(Nat.pow 2 63 : Int) ≤ n) (hhigh' : n ≤ (largestSignificand : Int)) :
    Recovers (Codec.wholeNumber expected low high) (.integer n) n := by
  intro style depth blanks rest hblanks hrest
  have hnumber := number_toString hlow' hhigh' hrest
  obtain ⟨c, text, htext, hc⟩ := exists_toString_int n
  show Codec.wholeNumber expected low high (blanks ++ ((toString n).toList ++ rest)) = _
  rw [htext] at hnumber ⊢
  refine placed_of_ok ((bind_of_ok (peekValue_cons hblanks (ne_of_startsNumber hc).1)).trans ?_)
  rw [if_pos (by simpa [startsNumber] using hc)]
  refine (bind_of_ok hnumber).trans ?_
  show (if low ≤ n ∧ n ≤ high then pure n else _ : Reader Int) rest = _
  rw [if_pos ⟨hlow, hhigh⟩]
  rfl

theorem roundTrips_count (expected : String) {n : Nat} (hn : n < 2 ^ 64) :
    (Codec.count expected).RoundTrips n := by
  have hlimit : Codec.largestWord = (2 : Int) ^ 64 - 1 := by decide
  have hlimit' : (largestSignificand : Int) = 2 ^ 64 - 1 := by decide
  intro style depth blanks rest hblanks hrest
  refine map_of_ok (recovers_wholeNumber expected ?_ ?_ ?_ ?_ style depth blanks rest hblanks hrest)
  · omega
  · rw [hlimit]
    omega
  · exact Int.le_trans (by decide) (Int.natCast_nonneg n)
  · rw [hlimit']
    omega

/-- An exit code: a signed number of 32 bits. -/
def InCodeRange (n : Int) : Prop := -2 ^ 31 ≤ n ∧ n < 2 ^ 31

theorem roundTrips_code (hn : InCodeRange n) : Codec.code.RoundTrips n := by
  have hlow : (-(Nat.pow 2 31) : Int) = -2 ^ 31 := by decide
  have hhigh : ((Nat.pow 2 31 : Nat) : Int) - 1 = 2 ^ 31 - 1 := by decide
  have hlimit : (-(Nat.pow 2 63 : Int)) ≤ -2 ^ 31 := by decide
  have hlimit' : (2 : Int) ^ 31 - 1 ≤ (largestSignificand : Int) := by decide
  obtain ⟨hn, hn'⟩ := hn
  refine recovers_wholeNumber "i32" ?_ ?_ ?_ ?_
  · exact hlow ▸ hn
  · omega
  · omega
  · omega

/-- A finite double whose text is read as the same double. -/
structure ReadsBack (x : Binary64) : Prop where
  isFinite : x.isFinite = true
  decode : decode Codec.float.read (Value.floatText x) = .ok x

/-- What was decoded was read up to blanks at the end of the text. -/
theorem exists_of_decode {s : List Char} (h : decode r s = .ok a) :
    ∃ s', r s = (.ok a, s') ∧ s'.dropWhile isSpace = [] := by
  unfold decode at h
  dsimp only at h
  split at h
  · next hwhole =>
    cases h
    obtain ⟨a', s', hread, htoken⟩ := exists_of_bind_ok hwhole
    obtain ⟨next, t, hpeek, hend⟩ := exists_of_bind_ok htoken
    have hnext : (s'.dropWhile isSpace).head? = next := by cases hpeek; rfl
    cases next with
    | some d => cases hend
    | none =>
      cases hend
      exact ⟨s', hread, List.head?_eq_none_iff.mp hnext⟩
  · cases h
  · cases h

/-- The number that is read for a double once its first character was seen. -/
theorem float_cons {d : Char} (hd : startsNumber d = true) {blanks : List Char}
    (hblanks : IsBlank blanks) (s : List Char) :
    Codec.float.read (blanks ++ d :: s) = placed (do
      match ← number with
      | .integer n => return ⟨n < 0, (Binary64.ofNat n.natAbs).magnitude⟩
      | .float x => return x) (d :: s) := by
  refine placed_congr ((bind_of_ok (peekValue_cons hblanks (ne_of_startsNumber hd).1)).trans ?_)
  exact (congrFun (if_pos (by simpa [startsNumber] using hd)) (d :: s)).trans rfl

theorem roundTrips_float {x : Binary64} (hx : ReadsBack x) : Codec.float.RoundTrips x := by
  intro style depth blanks rest hblanks hrest
  have hwrite : (Codec.float.write x).write style depth = Value.floatText x := by
    show (if x.isFinite then Value.float x else .null).write style depth = _
    rw [if_pos hx.isFinite]
    rfl
  obtain ⟨d, text, htext, hd, hspaces⟩ := exists_floatText hx.isFinite
  obtain ⟨s', hread, hend⟩ := exists_of_decode hx.decode
  rw [htext] at hread hspaces
  rw [← List.nil_append (d :: text), float_cons hd isBlank_nil] at hread
  have hlocal : ∀ s, LocalAt (do
      match ← number with
      | .integer n => return ⟨n < 0, (Binary64.ofNat n.natAbs).magnitude⟩
      | .float x => return x : Reader Binary64) s := by
    intro s
    refine localAt_bind localAt_number ?_
    intro number s' _
    cases number
    · exact localAt_pure
    · exact localAt_pure
  obtain ⟨hsuffix, happend⟩ := localAt_placed (hlocal _) x s' hread
  have hnil : s' = [] := by
    -- there is no blank in the text of a number
    rcases s' with _ | ⟨e, s'⟩
    · rfl
    · have he : isSpace e = false := hspaces e (hsuffix.subset List.mem_cons_self)
      rw [List.dropWhile_cons_of_neg (by simp [he])] at hend
      cases hend
  rw [hwrite, htext, List.cons_append, float_cons hd hblanks, ← List.cons_append,
    happend rest hrest, hnil, List.nil_append]

/-! ## Options and lists -/

theorem roundTrips_none : c.option.RoundTrips none := by
  intro style depth blanks rest hblanks hrest
  refine (bind_of_ok (peekToken_cons hblanks rfl)).trans ?_
  exact (bind_of_ok (skip_cons _ _)).trans (bind_of_ok (word_append ['u', 'l', 'l'] rest))

/-- What is not written as null is told from it by its first character. -/
theorem Codec.RoundTrips.option_some (h : c.RoundTrips a) (hnull : (c.write a).isNull = false) :
    c.option.RoundTrips (some a) := by
  intro style depth blanks rest hblanks hrest
  have hread := h style depth [] rest isBlank_nil hrest
  obtain ⟨d, text, htext, hspace, -, hn⟩ := exists_write (c.write a) style depth
  have hd : d ≠ 'n' := by
    intro hd
    rw [hn hd] at hnull
    cases hnull
  show c.option.read (blanks ++ ((c.write a).write style depth ++ rest)) = _
  rw [htext, List.nil_append] at hread
  rw [htext]
  refine (bind_of_ok (peekToken_cons hblanks hspace)).trans ?_
  refine Eq.trans (congrFun ?_ _) (map_of_ok hread)
  split
  · next heq => exact absurd (Option.some.inj heq) hd
  · rfl

theorem nextItem_closing {first : Bool} {blanks : List Char} (hblanks : IsBlank blanks)
    (s : List Char) : nextItem first (blanks ++ ']' :: s) = (.ok false, ']' :: s) :=
  bind_of_ok (peekToken_cons hblanks rfl)

theorem nextItem_first {d : Char} (hspace : isSpace d = false) (hclose : d ≠ ']')
    {blanks : List Char} (hblanks : IsBlank blanks) (s : List Char) :
    nextItem true (blanks ++ d :: s) = (.ok true, d :: s) := by
  refine (bind_of_ok (peekToken_cons hblanks hspace)).trans ?_
  refine congrFun (g := (pure true : Reader Bool)) ?_ (d :: s)
  split
  · next heq => cases heq
  · next heq => exact absurd (Option.some.inj heq) hclose
  · rfl

theorem nextItem_comma {d : Char} (hspace : isSpace d = false) (hclose : d ≠ ']')
    {blanks : List Char} (hblanks : IsBlank blanks) (s : List Char) :
    nextItem false (',' :: (blanks ++ d :: s)) = (.ok true, d :: s) := by
  have hcomma := peekToken_cons (c := ',') (s := blanks ++ d :: s) isBlank_nil rfl
  refine (bind_of_ok hcomma).trans ?_
  refine (bind_of_ok (skip_cons _ _)).trans ?_
  refine (bind_of_ok (peekToken_cons hblanks hspace)).trans ?_
  refine congrFun (g := (pure true : Reader Bool)) ?_ (d :: s)
  split
  · next heq => exact absurd (Option.some.inj heq) hclose
  · rfl
  · next heq => cases heq

theorem follows_writeItems (style : Value.Style) (depth : Nat) (items : List Value)
    (hrest : Follows rest) : Follows (Value.writeItems style depth items ++ rest) := by
  cases items with
  | nil => exact hrest
  | cons item items => exact follows_cons rfl _

/-- The items after the first one are read one after the other, each after a comma. -/
theorem itemsWithin_writeItems {items : List α} (h : ∀ a ∈ items, c.RoundTrips a)
    (style : Value.Style) (depth : Nat) {fuel : Nat} (hfuel : items.length < fuel)
    {gap : List Char} (hgap : IsBlank gap) (hfollows : ∀ s, Follows (gap ++ ']' :: s))
    (rest : List Char) :
    Codec.itemsWithin c.read false fuel
      (Value.writeItems style depth (items.map c.write) ++ (gap ++ ']' :: rest)) =
        (.ok items, ']' :: rest) := by
  induction items generalizing fuel with
  | nil =>
    obtain ⟨fuel, rfl⟩ : ∃ n, fuel = n + 1 := ⟨fuel - 1, by simp at hfuel; omega⟩
    exact bind_of_ok (nextItem_closing hgap rest)
  | cons a items ih =>
    obtain ⟨fuel, rfl⟩ : ∃ n, fuel = n + 1 := ⟨fuel - 1, by simp at hfuel; omega⟩
    have hitems := ih (fun b hb => h b (List.mem_cons_of_mem a hb))
      (show items.length < fuel by simpa using hfuel)
    obtain ⟨d, text, htext, hspace, hclose, -⟩ := exists_write (c.write a) style depth
    have hread := h a List.mem_cons_self style depth [] _ isBlank_nil
      (follows_writeItems style depth (items.map c.write) (hfollows rest))
    have hwrite : Value.writeItems style depth ((a :: items).map c.write) ++ (gap ++ ']' :: rest) =
        ',' :: (style.gap depth ++ d :: (text ++
          (Value.writeItems style depth (items.map c.write) ++ (gap ++ ']' :: rest)))) := by
      rw [List.map_cons, Value.writeItems, htext]
      simp
    rw [htext, List.nil_append, List.cons_append] at hread
    rw [hwrite]
    refine (bind_of_ok (nextItem_comma hspace hclose (isBlank_gap style depth) _)).trans ?_
    exact (bind_of_ok hread).trans (bind_of_ok hitems)

theorem length_le_writeItems (style : Value.Style) (depth : Nat) (items : List Value) :
    items.length ≤ (Value.writeItems style depth items).length := by
  induction items with
  | nil => exact Nat.le_refl _
  | cons item items ih =>
    rw [Value.writeItems]
    simp only [List.length_cons, List.length_append]
    omega

theorem endList_closing (s : List Char) : endList (']' :: s) = (.ok (), s) :=
  bind_of_ok (peekToken_cons isBlank_nil rfl)

theorem Codec.RoundTrips.list {items : List α} (h : ∀ a ∈ items, c.RoundTrips a) :
    c.list.RoundTrips items := by
  intro style depth blanks rest hblanks hrest
  refine placed_of_ok ?_
  cases items with
  | nil =>
    refine (bind_of_ok (peekValue_cons hblanks rfl)).trans ?_
    refine (bind_of_ok (skip_cons _ _)).trans ?_
    refine (bind_of_ok (get_eq _)).trans ?_
    refine closedBy_of_ok ?_ (endList_closing rest)
    exact bind_of_ok (nextItem_closing isBlank_nil rest)
  | cons a items =>
    have hgap := isBlank_gap style depth
    have hfollows : ∀ s, Follows (style.gap depth ++ ']' :: s) :=
      fun s => follows_gap style depth (follows_cons rfl s)
    obtain ⟨d, text, htext, hspace, hclose, -⟩ := exists_write (c.write a) style (depth + 1)
    have hread := h a List.mem_cons_self style (depth + 1) [] _ isBlank_nil
      (follows_writeItems style (depth + 1) (items.map c.write) (hfollows rest))
    have hwrite : (c.list.write (a :: items)).write style depth ++ rest =
        '[' :: (style.gap (depth + 1) ++ d :: (text ++ (Value.writeItems style (depth + 1)
          (items.map c.write) ++ (style.gap depth ++ ']' :: rest)))) := by
      show Value.write style depth (.array (c.write a :: items.map c.write)) ++ rest = _
      rw [Value.write, htext]
      simp
    rw [htext, List.nil_append, List.cons_append] at hread
    rw [hwrite]
    refine (bind_of_ok (peekValue_cons hblanks rfl)).trans ?_
    refine (bind_of_ok (skip_cons _ _)).trans ?_
    refine (bind_of_ok (get_eq _)).trans ?_
    refine closedBy_of_ok ?_ (endList_closing rest)
    refine (bind_of_ok (nextItem_first hspace hclose (isBlank_gap style (depth + 1)) _)).trans ?_
    refine (bind_of_ok hread).trans (bind_of_ok (itemsWithin_writeItems
      (fun b hb => h b (List.mem_cons_of_mem a hb)) style (depth + 1) ?_ hgap hfollows rest))
    have hlength := length_le_writeItems style (depth + 1) (items.map c.write)
    rw [List.length_map] at hlength
    simp only [List.length_append, List.length_cons]
    omega

/-! ## Choices -/

/-- A known name is read from its text. -/
theorem nameOf_stringText {known : List (String × α)} {name : String}
    (hlookup : known.lookup name = some a) {blanks : List Char} (hblanks : IsBlank blanks)
    (rest : List Char) : Codec.nameOf known (blanks ++ (Value.stringText name.toList ++ rest)) =
      (.ok a, rest) := by
  refine placed_of_ok ?_
  refine (bind_of_ok (peekValue_cons hblanks rfl)).trans ?_
  refine (bind_of_ok (string_stringText name rest)).trans ?_
  rw [hlookup]
  rfl

theorem roundTrips_names [DecidableEq α] {known : List (String × α)} {name : String}
    (hfind : known.find? (fun entry => entry.2 = a) = some (name, a))
    (hlookup : known.lookup name = some a) : (Codec.names known).RoundTrips a := by
  have hwrite : (Codec.names known).write a = .string name := by
    rw [Codec.names]
    dsimp only
    rw [hfind]
  intro style depth blanks rest hblanks hrest
  rw [hwrite]
  refine (bind_of_ok (peekValue_cons hblanks rfl)).trans ?_
  exact bind_of_ok (nameOf_stringText hlookup isBlank_nil rest)

/-! ## Keys -/

theorem nextKey_closing {first : Bool} {blanks : List Char} (hblanks : IsBlank blanks)
    (s : List Char) : nextKey first (blanks ++ '\x7d' :: s) = (.ok false, '\x7d' :: s) :=
  bind_of_ok (peekToken_cons hblanks rfl)

theorem nextKey_first {blanks : List Char} (hblanks : IsBlank blanks) (key : String)
    (s : List Char) : nextKey true (blanks ++ (Value.stringText key.toList ++ s)) =
      (.ok true, Value.stringText key.toList ++ s) := bind_of_ok (peekToken_cons hblanks rfl)

theorem nextKey_comma {blanks : List Char} (hblanks : IsBlank blanks) (key : String)
    (s : List Char) : nextKey false (',' :: (blanks ++ (Value.stringText key.toList ++ s))) =
      (.ok true, Value.stringText key.toList ++ s) := by
  have hcomma := peekToken_cons (c := ',')
    (s := blanks ++ (Value.stringText key.toList ++ s)) isBlank_nil rfl
  refine (bind_of_ok hcomma).trans ((bind_of_ok (skip_cons _ _)).trans ?_)
  exact bind_of_ok (peekToken_cons hblanks rfl)

/-- The blanks after a colon. -/
def afterColon : Value.Style → List Char
  | .compact => []
  | .pretty => [' ']

theorem isBlank_afterColon (style : Value.Style) : IsBlank (afterColon style) := by
  intro d hd
  cases style with
  | compact => cases hd
  | pretty =>
    rw [List.mem_singleton.mp hd]
    rfl

theorem colon_append (style : Value.Style) (s : List Char) :
    Reader.colon (style.colon ++ s) = (.ok (), afterColon style ++ s) := by
  have hcolon : ∀ t, Reader.colon (':' :: t) = (.ok (), t) :=
    fun t => bind_of_ok (peekToken_cons isBlank_nil rfl)
  cases style with
  | compact => exact hcolon s
  | pretty => exact hcolon (' ' :: s)

theorem endObject_closing (s : List Char) : endObject ('\x7d' :: s) = (.ok (), s) :=
  bind_of_ok (peekToken_cons isBlank_nil rfl)

/-- A choice whose name has something that belongs to it. -/
theorem recovers_choice {known : List (String × β)} {alone inside : β → Reader α} {b : β}
    {name : String} (hlookup : known.lookup name = some b) (hinside : Recovers (inside b) v a) :
    Recovers (Codec.choice known alone inside) (.object [(name, v)]) a := by
  intro style depth blanks rest hblanks hrest
  have hwrite : Value.write style depth (.object [(name, v)]) ++ rest =
      '\x7b' :: (style.gap (depth + 1) ++ (Value.stringText name.toList ++ (style.colon ++
        (v.write style (depth + 1) ++ (style.gap depth ++ '\x7d' :: rest))))) := by
    rw [Value.write, Value.writeFields]
    simp
  have hclosing := follows_gap style depth (follows_cons (c := '\x7d') rfl rest)
  rw [hwrite]
  refine (bind_of_ok (peekValue_cons hblanks rfl)).trans ?_
  refine (bind_of_ok (skip_cons _ _)).trans ?_
  refine (bind_of_ok (nextKey_first (isBlank_gap style (depth + 1)) name _)).trans ?_
  refine (bind_of_ok (nameOf_stringText hlookup isBlank_nil _)).trans ?_
  refine (bind_of_ok (colon_append style _)).trans ?_
  refine (bind_of_ok (hinside style (depth + 1) _ _ (isBlank_afterColon style) hclosing)).trans ?_
  have hend : Codec.endChoice (style.gap depth ++ '\x7d' :: rest) = (.ok (), rest) :=
    bind_of_ok (peekToken_cons (isBlank_gap style depth) rfl)
  exact bind_of_ok hend

/-! ## Fields -/

/-- A field is recovered from what is written for it; if it is left out, then because a reader
takes it for the same value. -/
def Field.Recovers (f : Field α) (a : α) : Prop :=
  match f.write a with
  | some v => Json.Recovers f.read v a
  | none => f.inObject = some a

namespace Fields

/-- The names of the fields. -/
def names : {τ : Type} → Fields τ → List String
  | _, nil => []
  | _, cons field rest => field.name :: rest.names

/-- Each field of a record is recovered. -/
def Recover : {τ : Type} → Fields τ → τ → Prop
  | _, nil, _ => True
  | _, cons field rest, (a, b) => field.Recovers a ∧ rest.Recover b

/-- The slots of a record when some of its keys were read. -/
def slotsAfter (keys : List String) : {τ : Type} → (fs : Fields τ) → τ → fs.Slots
  | _, nil, _ => ()
  | _, @cons α _ field rest, (a, b) =>
    ((if field.name ∈ keys then some a else none, rest.slotsAfter keys b) : Option α × rest.Slots)

theorem slotsAfter_nil {τ : Type} (fs : Fields τ) (t : τ) : fs.slotsAfter [] t = fs.noSlots := by
  induction fs with
  | nil => rfl
  | cons field rest ih =>
    show (_, rest.slotsAfter [] t.2) = (_, rest.noSlots)
    rw [ih, if_neg List.not_mem_nil]

theorem slotsAfter_of_not_mem {τ : Type} (fs : Fields τ) (t : τ) {key : String}
    {keys : List String} (h : key ∉ fs.names) :
    fs.slotsAfter (key :: keys) t = fs.slotsAfter keys t := by
  induction fs with
  | nil => rfl
  | cons field rest ih =>
    obtain ⟨hname, hrest⟩ := not_or.mp (mt List.mem_cons.mpr h)
    have hmem : field.name ∈ key :: keys ↔ field.name ∈ keys := by
      rw [List.mem_cons]
      exact or_iff_right (Ne.symm hname)
    show (_, rest.slotsAfter (key :: keys) t.2) = (_, rest.slotsAfter keys t.2)
    rw [ih t.2 hrest]
    simp only [hmem]

theorem mem_names_of_mem_write {τ : Type} (fs : Fields τ) (t : τ) {key : String} {v : Value}
    (h : (key, v) ∈ fs.write t) : key ∈ fs.names := by
  induction fs with
  | nil => cases h
  | cons field rest ih =>
    rcases List.mem_append.mp h with hfield | hrest
    · obtain ⟨v', -, hv'⟩ := Option.map_eq_some_iff.mp (Option.mem_toList.mp hfield)
      rw [← (Prod.mk.inj hv').1]
      exact List.mem_cons_self
    · exact List.mem_cons_of_mem _ (ih t.2 hrest)

/-- The keys are written in the order of the fields. -/
theorem sublist_names {τ : Type} (fs : Fields τ) (t : τ) :
    ((fs.write t).map Prod.fst).Sublist fs.names := by
  induction fs with
  | nil => exact List.Sublist.refl _
  | cons field rest ih =>
    show ((((field.write t.1).map fun v => (field.name, v)).toList ++ rest.write t.2).map
      Prod.fst).Sublist (field.name :: rest.names)
    cases field.write t.1 with
    | none => exact (ih t.2).cons _
    | some v => exact (ih t.2).cons_cons _

/-- A key that is written for a record is stored with its value. The induction is on the fields, up
to the one that has the key. -/
theorem store_slotsAfter {τ : Type} {fs : Fields τ} {t : τ} (hnames : fs.names.Nodup)
    (h : fs.Recover t) {key : String} {v : Value} (hmem : (key, v) ∈ fs.write t)
    {keys : List String} (hkey : key ∉ keys) :
    ∃ r, fs.store key (fs.slotsAfter keys t) = some r ∧
      ∀ (style : Value.Style) (depth : Nat) (rest : List Char), Follows rest →
        r (style.colon ++ (v.write style depth ++ rest)) =
          (.ok (fs.slotsAfter (key :: keys) t), rest) := by
  induction fs with
  | nil => cases hmem
  | @cons α β field others ih =>
    obtain ⟨a, b⟩ := t
    obtain ⟨hname, hnames⟩ := List.nodup_cons.mp hnames
    obtain ⟨hfield, hothers⟩ := h
    have hstore : (cons field others).store key ((cons field others).slotsAfter keys (a, b)) =
        if key = field.name then
          some do
            if (if field.name ∈ keys then some a else none).isSome then
              failNowhere (.duplicateField key)
            colon
            let a ← field.read
            return ((some a, others.slotsAfter keys b) : Option α × others.Slots)
        else (others.store key (others.slotsAfter keys b)).map fun r => do
          return (((if field.name ∈ keys then some a else none), ← r) : Option α × others.Slots) :=
      rfl
    rw [hstore]
    rcases List.mem_append.mp hmem with hfirst | hlater
    · -- the key is that of the first field, and it was not read before
      obtain ⟨v', hv, hpair⟩ := Option.map_eq_some_iff.mp (Option.mem_toList.mp hfirst)
      obtain ⟨rfl, rfl⟩ := Prod.mk.inj hpair
      have hread : Json.Recovers field.read v' a := by
        unfold Field.Recovers at hfield
        rw [hv] at hfield
        exact hfield
      rw [if_pos rfl, if_neg hkey]
      refine ⟨_, rfl, ?_⟩
      intro style depth rest hrest
      refine (bind_of_ok (colon_append style _)).trans ?_
      refine (bind_of_ok (hread style depth _ rest (isBlank_afterColon style) hrest)).trans ?_
      show (Except.ok (some a, others.slotsAfter keys b), rest) = _
      have hslots : (cons field others).slotsAfter (field.name :: keys) (a, b) =
          (some a, others.slotsAfter keys b) := by
        show ((if field.name ∈ field.name :: keys then some a else none), _) = _
        rw [if_pos List.mem_cons_self, others.slotsAfter_of_not_mem b hname]
      rw [hslots]
      rfl
    · have hne : key ≠ field.name := by
        rintro rfl
        exact hname (others.mem_names_of_mem_write b hlater)
      obtain ⟨r, hr, hread⟩ := ih hnames hothers hlater
      rw [if_neg hne, hr]
      refine ⟨_, rfl, ?_⟩
      intro style depth rest hrest
      refine (bind_of_ok (hread style depth rest hrest)).trans ?_
      have hslots : (cons field others).slotsAfter (key :: keys) (a, b) =
          ((if field.name ∈ keys then some a else none), others.slotsAfter (key :: keys) b) := by
        show ((if field.name ∈ key :: keys then some a else none), _) = _
        have hiff : field.name ∈ key :: keys ↔ field.name ∈ keys := by
          rw [List.mem_cons]
          exact or_iff_right (Ne.symm hne)
        simp only [hiff]
      rw [hslots]
      rfl

/-- When all that is written was read, nothing is missing. -/
theorem finish_slotsAfter {τ : Type} {fs : Fields τ} {t : τ} (h : fs.Recover t)
    {keys : List String} (hkeys : ∀ p ∈ fs.write t, p.1 ∈ keys) (s : List Char) :
    fs.finish (fs.slotsAfter keys t) s = (.ok t, s) := by
  induction fs with
  | nil => rfl
  | @cons α β field others ih =>
    obtain ⟨a, b⟩ := t
    obtain ⟨hfield, hothers⟩ := h
    have hrest := ih hothers fun p hp => hkeys p (List.mem_append_right _ hp)
    have hslot : (if field.name ∈ keys then some a else none).or field.inObject = some a := by
      by_cases hread : field.name ∈ keys
      · rw [if_pos hread]
        rfl
      · -- the field was left out
        rw [if_neg hread]
        have hnone : field.write a = none := by
          rw [Option.eq_none_iff_forall_ne_some]
          intro v hv
          refine hread (hkeys (field.name, v) (List.mem_append_left _ ?_))
          rw [hv]
          exact List.mem_singleton_self _
        unfold Field.Recovers at hfield
        rw [hnone] at hfield
        exact hfield
    rw [slotsAfter, finish]
    rw [hslot]
    exact bind_of_ok hrest

/-- One key and its value. -/
theorem slotsWithin_step {τ : Type} {fs : Fields τ} {t : τ} (hnames : fs.names.Nodup)
    (h : fs.Recover t) {key : String} {v : Value} (hmem : (key, v) ∈ fs.write t)
    {keys : List String} (hkey : key ∉ keys) {first : Bool} {s : List Char}
    {style : Value.Style} {depth : Nat} {more : List Char}
    (hnext : nextKey first s = (.ok true, Value.stringText key.toList ++
      (style.colon ++ (v.write style depth ++ more))))
    (hmore : Follows more) (fuel : Nat) :
    fs.slotsWithin first (fs.slotsAfter keys t) (fuel + 1) s =
      fs.slotsWithin false (fs.slotsAfter (key :: keys) t) fuel more := by
  obtain ⟨r, hr, hread⟩ := store_slotsAfter hnames h hmem hkey
  refine (bind_of_ok hnext).trans ?_
  rw [if_pos rfl]
  refine (bind_of_ok (string_stringText key _)).trans ?_
  rw [hr]
  exact bind_of_ok (hread style depth more hmore)

theorem follows_writeFields (style : Value.Style) (depth : Nat)
    (fields : List (String × Value)) (hrest : Follows rest) :
    Follows (Value.writeFields style depth fields ++ rest) := by
  cases fields with
  | nil => exact hrest
  | cons field fields => exact follows_cons rfl _

theorem length_le_writeFields (style : Value.Style) (depth : Nat)
    (fields : List (String × Value)) :
    fields.length ≤ (Value.writeFields style depth fields).length := by
  induction fields with
  | nil => exact Nat.le_refl _
  | cons field fields ih =>
    rw [Value.writeFields]
    simp only [List.length_cons, List.length_append]
    omega

/-- The fields after the first one are read one after the other. -/
theorem slotsWithin_writeFields {τ : Type} {fs : Fields τ} {t : τ} (hnames : fs.names.Nodup)
    (h : fs.Recover t) {fields : List (String × Value)} (hmem : ∀ p ∈ fields, p ∈ fs.write t)
    (hdistinct : (fields.map Prod.fst).Nodup) {keys : List String}
    (hkeys : ∀ p ∈ fields, p.1 ∉ keys) (style : Value.Style) (depth : Nat) {fuel : Nat}
    (hfuel : fields.length < fuel) {gap : List Char} (hgap : IsBlank gap)
    (hfollows : ∀ s, Follows (gap ++ '\x7d' :: s)) (rest : List Char) :
    fs.slotsWithin false (fs.slotsAfter keys t) fuel
      (Value.writeFields style depth fields ++ (gap ++ '\x7d' :: rest)) =
        (.ok (fs.slotsAfter ((fields.map Prod.fst).reverse ++ keys) t), '\x7d' :: rest) := by
  induction fields generalizing keys fuel with
  | nil =>
    obtain ⟨fuel, rfl⟩ : ∃ n, fuel = n + 1 := ⟨fuel - 1, by simp at hfuel; omega⟩
    exact bind_of_ok (nextKey_closing hgap rest)
  | cons field fields ih =>
    obtain ⟨key, v⟩ := field
    obtain ⟨fuel, rfl⟩ : ∃ n, fuel = n + 1 := ⟨fuel - 1, by simp at hfuel; omega⟩
    obtain ⟨hkey, hkeys⟩ := List.forall_mem_cons.mp hkeys
    obtain ⟨hnew, hdistinct⟩ := List.nodup_cons.mp hdistinct
    have hwrite : Value.writeFields style depth ((key, v) :: fields) ++ (gap ++ '\x7d' :: rest) =
        ',' :: (style.gap depth ++ (Value.stringText key.toList ++ (style.colon ++
          (v.write style depth ++ (Value.writeFields style depth fields ++
            (gap ++ '\x7d' :: rest)))))) := by
      rw [Value.writeFields]
      simp
    rw [hwrite, slotsWithin_step hnames h (hmem _ List.mem_cons_self) hkey
      (nextKey_comma (isBlank_gap style depth) key _)
      (follows_writeFields style depth fields (hfollows rest)) fuel]
    have hlater : ∀ p ∈ fields, p.1 ∉ key :: keys := by
      intro p hp hin
      have hname : p.1 ∈ fields.map Prod.fst := List.mem_map_of_mem hp
      rcases List.mem_cons.mp hin with heq | hin
      · exact hnew (heq ▸ hname)
      · exact hkeys p hp hin
    rw [ih (fun p hp => hmem p (List.mem_cons_of_mem _ hp)) hdistinct hlater
      (by simpa using hfuel)]
    simp

/-- A record is recovered from its object. -/
theorem recovers_object {τ : Type} {fs : Fields τ} {t : τ} (hnames : fs.names.Nodup)
    (h : fs.Recover t) (title : String) :
    Json.Recovers (fs.read title) (.object (fs.write t)) t := by
  intro style depth blanks rest hblanks hrest
  have hgap := isBlank_gap style depth
  have hfollows : ∀ s, Follows (style.gap depth ++ '\x7d' :: s) :=
    fun s => follows_gap style depth (follows_cons rfl s)
  have hdistinct : ((fs.write t).map Prod.fst).Nodup := hnames.sublist (fs.sublist_names t)
  refine placed_of_ok ?_
  rcases hfields : fs.write t with _ | ⟨⟨key, v⟩, fields⟩
  · have hfinish : fs.finish (fs.slotsAfter [] t) ('\x7d' :: rest) = (.ok t, '\x7d' :: rest) :=
      finish_slotsAfter h (by rw [hfields]; nofun) _
    rw [slotsAfter_nil] at hfinish
    refine (bind_of_ok (peekValue_cons hblanks rfl)).trans ?_
    refine (bind_of_ok (skip_cons _ _)).trans ?_
    refine (bind_of_ok (get_eq _)).trans ?_
    refine closedBy_of_ok ?_ (endObject_closing rest)
    have hslots : fs.slotsWithin true fs.noSlots (('\x7d' :: rest).length + 1)
        ('\x7d' :: rest) = (.ok fs.noSlots, '\x7d' :: rest) :=
      bind_of_ok (nextKey_closing isBlank_nil rest)
    exact (bind_of_ok hslots).trans hfinish
  · rw [hfields] at hdistinct
    obtain ⟨hnew, hdistinct⟩ := List.nodup_cons.mp hdistinct
    have hwrite : Value.write style depth (.object ((key, v) :: fields)) ++ rest =
        '\x7b' :: (style.gap (depth + 1) ++ (Value.stringText key.toList ++ (style.colon ++
          (v.write style (depth + 1) ++ (Value.writeFields style (depth + 1) fields ++
            (style.gap depth ++ '\x7d' :: rest)))))) := by
      rw [Value.write]
      simp
    have hmem : ∀ p ∈ fields, p ∈ fs.write t := by
      rw [hfields]
      exact fun p hp => List.mem_cons_of_mem _ hp
    have hkeys : ∀ p ∈ fields, p.1 ∉ [key] := by
      intro p hp heq
      have hname : p.1 ∈ fields.map Prod.fst := List.mem_map_of_mem hp
      exact hnew (List.mem_singleton.mp heq ▸ hname)
    have hfinish : fs.finish (fs.slotsAfter ((fields.map Prod.fst).reverse ++ [key]) t)
        ('\x7d' :: rest) = (.ok t, '\x7d' :: rest) := by
      refine finish_slotsAfter h ?_ _
      intro p hp
      rw [hfields] at hp
      rcases List.mem_cons.mp hp with rfl | hp
      · simp
      · exact List.mem_append_left _ (List.mem_reverse.mpr (List.mem_map_of_mem hp))
    rw [hwrite]
    refine (bind_of_ok (peekValue_cons hblanks rfl)).trans ?_
    refine (bind_of_ok (skip_cons _ _)).trans ?_
    refine (bind_of_ok (get_eq _)).trans ?_
    refine closedBy_of_ok ?_ (endObject_closing rest)
    refine Eq.trans (bind_of_ok ?_) hfinish
    rw [← slotsAfter_nil fs t, slotsWithin_step hnames h (hfields ▸ List.mem_cons_self)
      List.not_mem_nil (nextKey_first (isBlank_gap style (depth + 1)) key _)
      (follows_writeFields style (depth + 1) fields (hfollows rest))]
    refine slotsWithin_writeFields hnames h hmem hdistinct hkeys style (depth + 1) ?_ hgap
      hfollows rest
    have hlength := length_le_writeFields style (depth + 1) fields
    simp only [List.length_append, List.length_cons]
    omega

/-- The codec of a record reads what it has written if its fields are recovered. -/
theorem roundTrips_codec {τ : Type} {fs : Fields τ} {title : String} {make : τ → α} {parts : α → τ}
    (hnames : fs.names.Nodup) (hmake : make (parts a) = a) (h : fs.Recover (parts a)) :
    (fs.codec title make parts).RoundTrips a := by
  intro style depth blanks rest hblanks hrest
  have hread := recovers_object hnames h title style depth blanks rest hblanks hrest
  refine (map_of_ok hread).trans ?_
  rw [hmake]

end Fields

/-! ## Kinds of fields -/

namespace Field

theorem recovers_required (h : c.RoundTrips a) (name : String) :
    (required name c).Recovers a := h

theorem recovers_optional {o : Option α} (h : c.option.RoundTrips o) (name : String) :
    (optional name c).Recovers o := h

theorem recovers_defaulted (h : c.RoundTrips a) (name : String) (default : α) :
    (defaulted name c default).Recovers a := h

theorem recovers_omitted {o : Option α} (h : c.option.RoundTrips o) (name : String) :
    (omitted name c).Recovers o := by
  cases o with
  | none => rfl
  | some a => exact h

end Field

/-! ## Whole texts -/

theorem Codec.RoundTrips.decode_eq (h : c.RoundTrips a) (style : Value.Style) :
    decode c.read ((c.write a).write style 0) = .ok a := by
  have hread := h style 0 [] [] isBlank_nil follows_nil
  rw [List.nil_append, List.append_nil] at hread
  unfold decode
  dsimp only
  rw [bind_of_ok hread]
  rfl

end ProgramRepair.Json
