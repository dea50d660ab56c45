import ProgramRepair.Json.Value

/-!
# Reading JSON

A `Reader` takes what it needs from the front of the text and leaves the rest,
also when it fails: the place of an error without one of its own is where the
reader around it stopped. Here are the parts of every JSON text: blanks, words,
numbers, strings, whole values of any kind, and values that are passed over.
-/

namespace ProgramRepair.Json

/-- A cause and, where it is known, how many bytes of the text were left when it arose. -/
structure Failure where
  cause : Cause
  left : Option Nat
deriving Repr

/-- A computation that reads from the front of a text. -/
abbrev Reader := ExceptT Failure (StateM (List Char))

/-- The number of bytes of a text. -/
def byteCount (s : List Char) : Nat := s.foldl (fun n c => n + c.utf8Size) 0

namespace Reader

/-! ## Failing -/

/-- Fails `further` bytes after what was read. -/
def failAt (further : Nat) (cause : Cause) : Reader α := do
  let rest ← get
  throw ⟨cause, some (byteCount rest - further)⟩

/-- Fails right after what was read. -/
def failHere (cause : Cause) : Reader α := failAt 0 cause

/-- Fails at the next byte, which is counted to what was read. -/
def failNext (cause : Cause) : Reader α := failAt 1 cause

/-- Fails without a place. -/
def failNowhere (cause : Cause) : Reader α := throw ⟨cause, none⟩

/-- Gives an error that has no place the place where the reader stopped. -/
def placed (r : Reader α) : Reader α := fun s =>
  match r s with
  | (.error ⟨cause, none⟩, rest) => (.error ⟨cause, some (byteCount rest)⟩, rest)
  | result => result

/-- Runs `closing` after `r`, also if `r` failed. An error of `r` comes before one of `closing`. -/
def closedBy (r : Reader α) (closing : Reader Unit) : Reader α := fun s =>
  match r s with
  | (.ok a, rest) =>
    match closing rest with
    | (.ok (), rest) => (.ok a, rest)
    | (.error e, rest) => (.error e, rest)
  | (.error e, rest) => (.error e, (closing rest).2)

/-! ## Characters -/

/-- The next character, which is left in place. -/
def peek : Reader (Option Char) := do return (← get).head?

/-- Passes over one character. -/
def skip : Reader Unit := modify List.tail

/-- The four blanks of JSON. -/
def isSpace (c : Char) : Bool := c = ' ' || c = '\n' || c = '\t' || c = '\r'

/-- The next character after blanks, which is left in place. -/
def peekToken : Reader (Option Char) := do
  modify (·.dropWhile isSpace)
  peek

/-- The next character after blanks; a value has to start there. -/
def peekValue : Reader Char := do
  match ← peekToken with
  | some c => pure c
  | none => failNext .endInValue

/-- The letters of a word that has begun. -/
def word : List Char → Reader Unit
  | [] => pure ()
  | c :: cs => do
    match ← peek with
    | none => failHere .endInValue
    | some d => if c = d then do skip; word cs else failNext .expectedWord

/-! ## Numbers -/

/-- A number as it is read: a whole number if it fits in 64 bits. -/
inductive Number where
  | integer (n : Int)
  | float (x : Binary64)
deriving DecidableEq, Repr

def Number.found : Number → Found
  | integer n => .integer n
  | float x => .float x

/-- The digits that come next. -/
def digits : Reader (List Char) := do
  let s ← get
  set (s.dropWhile Char.isDigit)
  return s.takeWhile Char.isDigit

/-- The largest significand; digits that would take a significand beyond it do not count. -/
def largestSignificand : Nat := Nat.pow 2 64 - 1

/-- Takes digits into a significand as long as it fits. The result is the significand, how many
digits it took, and how many were left over. -/
def absorb (significand : Nat) : List Char → Nat × Nat × Nat
  | [] => (significand, 0, 0)
  | d :: ds =>
    let next := 10 * significand + (d.toNat - '0'.toNat)
    if largestSignificand < next then (significand, 0, ds.length + 1)
    else
      let (result, taken, left) := absorb next ds
      (result, taken + 1, left)

/-- The largest power of ten that numbers are scaled by in one step. -/
def largestPower : Nat := 308

/-- The power of ten as a double. -/
def powerOfTen (n : Nat) : Binary64 := .ofDecimal false 1 n

/-- A number divided by a power of ten, in steps. -/
def scaleDown (x : Binary64) (n : Nat) : Binary64 :=
  if n ≤ largestPower then x / powerOfTen n
  else if x.isZero then x
  else scaleDown (x / powerOfTen largestPower) (n - largestPower)
termination_by n
decreasing_by simp only [largestPower] at *; omega

/-- A significand times a power of ten. It is rounded to a double first and then scaled, so the
result is not always the nearest double. -/
def scaled (negative : Bool) (significand : Nat) (exponent : Int) : Reader Number := do
  let x := Binary64.ofNat significand
  let magnitude ←
    if exponent < 0 then pure (scaleDown x exponent.natAbs)
    else if exponent.natAbs ≤ largestPower then
      let y := x * powerOfTen exponent.natAbs
      if y.isInfinite then failHere .numberOutOfRange else pure y
    else if x.isZero then pure x
    else failHere .numberOutOfRange
  return .float ⟨negative, magnitude.magnitude⟩

/-- The largest exponent that is told from larger ones. -/
def largestExponent : Nat := Nat.pow 2 31 - 1

/-- The smallest exponent that exponents are cut to. -/
def clampExponent (n : Int) : Int :=
  max (-((Nat.pow 2 31) : Int)) (min n largestExponent)

/-- What follows the `e` of a number. An exponent beyond all bounds gives zero or an error. -/
def exponentPart (negative : Bool) (significand : Nat) (start : Int) : Reader Number := do
  skip
  let down ← do
    match ← peek with
    | some '+' => skip; pure false
    | some '-' => skip; pure true
    | _ => pure false
  match ← peek with
  | none => failHere .endInValue
  | some c =>
    if !c.isDigit then failNext .invalidNumber
    else
      let s ← get
      let ds := s.takeWhile Char.isDigit
      -- the exponent is too large as soon as one of its leading parts is
      match (List.range ds.length).find? fun k =>
          largestExponent < Binary64.digitsValue (ds.take (k + 1)) with
      | some k =>
        if significand ≠ 0 ∧ !down then
          set (s.drop (k + 1))
          failHere .numberOutOfRange
        else
          set (s.dropWhile Char.isDigit)
          return .float ⟨negative, 0⟩
      | none =>
        set (s.dropWhile Char.isDigit)
        let e : Int := Binary64.digitsValue ds
        scaled negative significand (clampExponent (if down then start - e else start + e))

/-- What follows the digits of a number with a point or exponent. -/
def afterDigits (negative : Bool) (significand : Nat) (exponent : Int) : Reader Number := do
  match ← peek with
  | some 'e' | some 'E' => exponentPart negative significand exponent
  | _ => scaled negative significand exponent

/-- What follows the point of a number. -/
def fractionPart (negative : Bool) (significand : Nat) (exponent : Int) : Reader Number := do
  skip
  let ds ← digits
  if ds.isEmpty then
    match ← peek with
    | some _ => failNext .invalidNumber
    | none => failNext .endInValue
  else
    let (significand, taken, _) := absorb significand ds
    afterDigits negative significand (exponent - taken)

/-- A number after its sign. -/
def unsignedNumber (negative : Bool) : Reader Number := do
  match ← peek with
  | none => failHere .endInValue
  | some c =>
    if !c.isDigit then failNext .invalidNumber
    else
      let ds ← digits
      if c = '0' ∧ 1 < ds.length then do
        modify (ds.drop 1 ++ ·)
        failNext .invalidNumber
      else
        let (significand, _, left) := absorb 0 ds
        match ← peek with
        | some '.' => fractionPart negative significand left
        | some 'e' | some 'E' => exponentPart negative significand left
        | _ =>
          if left ≠ 0 then scaled negative significand left
          else if negative ∧ (significand = 0 ∨ Nat.pow 2 63 < significand) then
            return .float (- Binary64.ofNat significand)
          else return .integer (if negative then - (significand : Int) else significand)

/-- A number whose first character was seen but not read. -/
def number : Reader Number := do
  match ← peek with
  | some '-' => skip; unsignedNumber true
  | _ => unsignedNumber false

/-! ## Strings -/

/-- The value of a hexadecimal digit. -/
def hexValue? (c : Char) : Option Nat :=
  if c.isDigit then some (c.toNat - '0'.toNat)
  else if 'a' ≤ c ∧ c ≤ 'f' then some (c.toNat - 'a'.toNat + 10)
  else if 'A' ≤ c ∧ c ≤ 'F' then some (c.toNat - 'A'.toNat + 10)
  else none

/-- The four digits of an escape. -/
def hexEscape : Reader Nat := do
  let s ← get
  if byteCount s < 4 then do
    set ([] : List Char)
    failHere .endInString
  else
    match (s.take 4).mapM hexValue? with
    | some ds => do
      set (s.drop 4)
      return ds.foldl (fun n d => 16 * n + d) 0
    | none => failAt 4 .invalidEscape

/-- The characters that stand for another one after a backslash. -/
def escapes : List (Char × Char) :=
  [('\x22', '\x22'), ('\\', '\\'), ('/', '/'), ('b', '\x08'), ('f', '\x0c'), ('n', '\n'),
    ('r', '\r'), ('t', '\t')]

/-- The character after `\u`. Characters beyond four digits are written as two halves. -/
def unicodeEscape : Reader Char := do
  let high ← hexEscape
  if 0xDC00 ≤ high ∧ high ≤ 0xDFFF then failHere .loneSurrogate
  else if high < 0xD800 ∨ 0xDBFF < high then return Char.ofNat high
  else
    match ← peek with
    | none => failHere .endInString
    | some '\\' =>
      skip
      match ← peek with
      | none => failHere .endInString
      | some 'u' =>
        skip
        let low ← hexEscape
        if 0xDC00 ≤ low ∧ low ≤ 0xDFFF then
          return Char.ofNat ((high - 0xD800) * 0x400 + (low - 0xDC00) + 0x10000)
        else failHere .loneSurrogate
      | some _ => failNext .halfSurrogate
    | some _ => failNext .halfSurrogate

/-- The character that an escape stands for, after its backslash. -/
def escape : Reader Char := do
  match ← peek with
  | none => failHere .endInString
  | some 'u' => skip; unicodeEscape
  | some c =>
    match escapes.lookup c with
    | some d => skip; return d
    | none => failNext .invalidEscape

/-- The characters up to the closing quote, which is read too. -/
def stringTail : Nat → Reader (List Char)
  | 0 => failHere .endInString
  | fuel + 1 => do
    match ← peek with
    | none => failHere .endInString
    | some '\x22' => skip; return []
    | some '\\' =>
      skip
      let c ← escape
      return c :: (← stringTail fuel)
    | some c =>
      if c.toNat < 0x20 then failNext .controlCharacter
      else do
        skip
        return c :: (← stringTail fuel)

/-- A string whose opening quote was seen but not read. -/
def string : Reader String := do
  skip
  let s ← get
  return String.ofList (← stringTail (s.length + 1))

/-! ## Values that are passed over -/

/-- Passes over the rest of an exponent. -/
def skipExponent : Reader Unit := do
  skip
  match ← peek with
  | some '+' | some '-' => skip
  | _ => pure ()
  match ← peek with
  | none => failHere .invalidNumber
  | some c =>
    if c.isDigit then do let _ ← digits
    else failNext .invalidNumber

/-- Passes over a number after its sign. Its size does not matter. -/
def skipUnsigned : Reader Unit := do
  match ← peek with
  | none => failHere .invalidNumber
  | some c =>
    if !c.isDigit then failNext .invalidNumber
    else
      let ds ← digits
      if c = '0' ∧ 1 < ds.length then do
        modify (ds.drop 1 ++ ·)
        failNext .invalidNumber
      match ← peek with
      | some '.' =>
        skip
        let fraction ← digits
        if fraction.isEmpty then failNext .invalidNumber
        match ← peek with
        | some 'e' | some 'E' => skipExponent
        | _ => pure ()
      | some 'e' | some 'E' => skipExponent
      | _ => pure ()

/-- Passes over the characters up to the closing quote. Halves of characters need no partner. -/
def skipStringTail : Nat → Reader Unit
  | 0 => failHere .endInString
  | fuel + 1 => do
    match ← peek with
    | none => failHere .endInString
    | some '\x22' => skip
    | some '\\' =>
      skip
      match ← peek with
      | none => failHere .endInString
      | some 'u' => skip; let _ ← hexEscape; skipStringTail fuel
      | some c =>
        if (escapes.lookup c).isSome then do skip; skipStringTail fuel
        else failNext .invalidEscape
    | some c =>
      if c.toNat < 0x20 then failHere .controlCharacter
      else do skip; skipStringTail fuel

/-- Passes over a string after its opening quote. -/
def skipString : Reader Unit := do
  let s ← get
  skipStringTail (s.length + 1)

/-- The two kinds of brackets. -/
inductive Bracket where
  | list
  | object
deriving DecidableEq, Repr

namespace Bracket

def closing : Bracket → Char
  | list => ']'
  | object => '\x7d'

/-- What is missing if the text ends inside the brackets. -/
def atEnd : Bracket → Cause
  | list => .endInList
  | object => .endInObject

/-- What is wrong if neither a comma nor the closing bracket follows an item. -/
def afterItem : Bracket → Cause
  | list => .expectedListEnd
  | object => .expectedObjectEnd

end Bracket

/-- Passes over a value without brackets. The result is the bracket if one was opened instead. -/
def skipAtom : Reader (Option Bracket) := do
  match ← peekValue with
  | 'n' => skip; word ['u', 'l', 'l']; return none
  | 't' => skip; word ['r', 'u', 'e']; return none
  | 'f' => skip; word ['a', 'l', 's', 'e']; return none
  | '-' => skip; skipUnsigned; return none
  | '\x22' => skip; skipString; return none
  | '[' => skip; return some .list
  | '\x7b' => skip; return some .object
  | c =>
    if c.isDigit then do skipUnsigned; return none
    else failNext .expectedValue

/-- Passes over closing brackets up to the next item. `after` says whether an item was just read.
The result is the brackets that are still open, or none if the value is complete. -/
def skipClosings (after : Bool) : List Bracket → Reader (List Bracket)
  | [] => pure []
  | b :: outer => do
    match ← peekToken with
    | none => failNext b.atEnd
    | some c =>
      if c = b.closing then do skip; skipClosings true outer
      else if after then
        if c = ',' then do skip; return b :: outer
        else failNext b.afterItem
      else return b :: outer

/-- Passes over the key of the next item if it stands in an object. -/
def skipKey : List Bracket → Reader Unit
  | .object :: _ => do
    match ← peekToken with
    | some '\x22' =>
      skip
      skipString
      match ← peekToken with
      | some ':' => skip
      | some _ => failNext .expectedColon
      | none => failNext .endInObject
    | some _ => failNext .keyNotString
    | none => failNext .endInObject
  | _ => pure ()

/-- Passes over what is left of a value inside the given brackets. -/
def skipRest : Nat → List Bracket → Reader Unit
  | 0, _ => failHere .endInValue
  | fuel + 1, enclosing => do
    let pending ← match ← skipAtom with
      | some b => skipClosings false (b :: enclosing)
      | none => skipClosings true enclosing
    if pending.isEmpty then pure ()
    else do
      skipKey pending
      skipRest fuel pending

/-- Passes over a value of any kind and depth. -/
def skipValue : Reader Unit := do
  let s ← get
  skipRest (s.length + 1) []

/-! ## Brackets -/

/-- The end of a list. -/
def endList : Reader Unit := do
  match ← peekToken with
  | some ']' => skip
  | some ',' =>
    skip
    match ← peekToken with
    | some ']' => failNext .trailingComma
    | _ => failNext .trailingCharacters
  | some _ => failNext .trailingCharacters
  | none => failNext .endInList

/-- The end of an object. -/
def endObject : Reader Unit := do
  match ← peekToken with
  | some '\x7d' => skip
  | some ',' => failNext .trailingComma
  | some _ => failNext .trailingCharacters
  | none => failNext .endInObject

/-- Whether another item of a list follows; `first` says that none was read yet. -/
def nextItem (first : Bool) : Reader Bool := do
  match ← peekToken with
  | none => failNext .endInList
  | some ']' => return false
  | some c =>
    if first then return true
    else if c = ',' then do
      skip
      match ← peekToken with
      | some ']' => failNext .trailingComma
      | some _ => return true
      | none => failNext .endInValue
    else failNext .expectedListEnd

/-- Whether another key of an object follows; `first` says that none was read yet. -/
def nextKey (first : Bool) : Reader Bool := do
  match ← peekToken with
  | none => failNext .endInObject
  | some '\x7d' => return false
  | some c =>
    if first then
      if c = '\x22' then return true else failNext .keyNotString
    else if c = ',' then do
      skip
      match ← peekToken with
      | some '\x22' => return true
      | some '\x7d' => failNext .trailingComma
      | some _ => failNext .keyNotString
      | none => failNext .endInValue
    else failNext .expectedObjectEnd

/-- The colon after a key. -/
def colon : Reader Unit := do
  match ← peekToken with
  | some ':' => skip
  | some _ => failNext .expectedColon
  | none => failNext .endInObject

/-! ## Whole values -/

/-- Fails because something else than `expected` comes next. What comes next is read if it has no
brackets. -/
def mismatch (expected : String) : Reader α := placed do
  match ← peek with
  | some 'n' => skip; word ['u', 'l', 'l']; failNowhere (.invalidType .null expected)
  | some 't' => skip; word ['r', 'u', 'e']; failNowhere (.invalidType (.boolean true) expected)
  | some 'f' =>
    skip
    word ['a', 'l', 's', 'e']
    failNowhere (.invalidType (.boolean false) expected)
  | some '\x22' => do
    let s ← string
    failNowhere (.invalidType (.string s) expected)
  | some '[' => failNowhere (.invalidType .sequence expected)
  | some '\x7b' => failNowhere (.invalidType .map expected)
  | some c =>
    if c = '-' ∨ c.isDigit then do
      let n ← number
      failNowhere (.invalidType n.found expected)
    else failNext .expectedValue
  | none => failNext .expectedValue

/-- How deep brackets may stand in each other. -/
def depthLimit : Nat := 128

mutual

/-- A value of any kind, with brackets less than `depth` deep. -/
def value (depth : Nat) : Nat → Reader Value
  | 0 => failHere .endInValue
  | fuel + 1 => do
    match ← peekValue with
    | 'n' => skip; word ['u', 'l', 'l']; return .null
    | 't' => skip; word ['r', 'u', 'e']; return .boolean true
    | 'f' => skip; word ['a', 'l', 's', 'e']; return .boolean false
    | '\x22' => return .string (← string)
    | '[' =>
      if depth ≤ 1 then failNext .tooDeep
      else do
        skip
        return .array (← closedBy (items (depth - 1) true fuel) endList)
    | '\x7b' =>
      if depth ≤ 1 then failNext .tooDeep
      else do
        skip
        return .object (← closedBy (fields (depth - 1) true fuel) endObject)
    | c =>
      if c = '-' ∨ c.isDigit then
        match ← number with
        | .integer n => return .integer n
        | .float x => return .float x
      else failNext .expectedValue

/-- The items of a list up to its closing bracket. -/
def items (depth : Nat) (first : Bool) : Nat → Reader (List Value)
  | 0 => failHere .endInList
  | fuel + 1 => do
    if ← nextItem first then
      let v ← value depth fuel
      return v :: (← items depth false fuel)
    else return []

/-- The fields of an object up to its closing bracket. -/
def fields (depth : Nat) (first : Bool) : Nat → Reader (List (String × Value))
  | 0 => failHere .endInObject
  | fuel + 1 => do
    if ← nextKey first then
      let key ← string
      colon
      let v ← value depth fuel
      return (key, v) :: (← fields depth false fuel)
    else return []

end

/-- A value of any kind. Each of its parts takes at least one character, which bounds how many
there are. -/
def anyValue (depth : Nat) : Reader Value := do
  let s ← get
  value depth (2 * s.length + 2)

end Reader

/-- Reads a whole text; nothing but blanks may follow the value. -/
def decode (reader : Reader α) (text : List Char) : Except Error α :=
  let whole : Reader α := do
    let a ← reader
    match ← Reader.peekToken with
    | some _ => Reader.failNext .trailingCharacters
    | none => return a
  match whole text with
  | (.ok a, _) => .ok a
  | (.error ⟨cause, none⟩, _) => .error ⟨cause, none⟩
  | (.error ⟨cause, some left⟩, _) =>
    let bytes := (String.ofList text).toUTF8.toList
    .error ⟨cause, some (Position.after (bytes.take (bytes.length - left)))⟩

end ProgramRepair.Json
