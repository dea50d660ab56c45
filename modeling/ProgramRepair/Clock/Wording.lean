import ProgramRepair.Clock.Calendar

/-!
# Moments in words

A moment can be given in words: by a date in one of several forms, a time of day, a
day of the week, a time zone, and steps from there such as `2 days ago`; or else by a
count of seconds alone. What is not said is taken from the current moment, but with a
date, a day or a zone alone the day begins. Nothing but steps can be said twice.
-/

namespace ProgramRepair.Moment

/-! ## Tokens -/

/-- A word in small letters, a number, or another character. -/
inductive Token where
  | word (s : List Char)
  /-- A number with its sign, how many digits it has, and the nanoseconds of its fraction. -/
  | number (sign : Option Char) (n digits : Nat) (part : Option Int)
  | other (c : Char)
deriving DecidableEq

/-- The number that digits stand for. -/
def ofDigits (ds : List Char) : Nat := ds.foldl (fun n d => 10 * n + (d.toNat - '0'.toNat)) 0

/-- The nanoseconds that the digits of a fraction of a second stand for. -/
def fraction (ds : List Char) : Int :=
  let n := ofDigits ds
  if ds.length ≤ 9 then n * Nat.pow 10 (9 - ds.length) else n / Nat.pow 10 (ds.length - 9)

def isGap (c : Char) : Bool := c = ' ' || ('\t' ≤ c && c ≤ '\r')

/-- The number at the beginning of a text, and what follows it. -/
def numberToken (sign : Option Char) (s : List Char) : Token × List Char :=
  let ds := s.takeWhile Char.isDigit
  let rest := s.drop ds.length
  let part := match rest with
    | c :: rest => if c = '.' ∨ c = ',' then rest.takeWhile Char.isDigit else []
    | [] => []
  if part.isEmpty then (.number sign (ofDigits ds) ds.length none, rest)
  else (.number sign (ofDigits ds) ds.length (some (fraction part)), rest.drop (part.length + 1))

/-- The tokens of a text. A sign without a number has no meaning. -/
def tokens : Nat → List Char → List Token
  | 0, _ => []
  | _ + 1, [] => []
  | fuel + 1, c :: s =>
    if isGap c then tokens fuel s
    else if c.isAlpha then
      let more := s.takeWhile fun d => d.isAlpha || d = '.'
      .word ((c :: more).map Char.toLower) :: tokens fuel (s.drop more.length)
    else if c.isDigit then
      let (t, rest) := numberToken none (c :: s)
      t :: tokens fuel rest
    else if c = '-' ∨ c = '+' then
      let s := s.dropWhile isGap
      if s.head?.any Char.isDigit then
        let (t, rest) := numberToken (some c) s
        t :: tokens fuel rest
      else tokens fuel s
    else .other c :: tokens fuel s

/-! ## Names -/

/-- The number of a name, which may be short for it with three letters, counted from 0. -/
def nameIndex? (names : List String) (w : List Char) : Option Nat :=
  let isShort := w.length = 3 || (w.length = 4 && w.getLast? = some '.')
  names.findIdx? fun name =>
    let name := name.toList.map Char.toLower
    if isShort then w.take 3 = name.take 3 else w = name

/-- The number of a month, counted from 0. -/
def month? (w : List Char) : Option Nat :=
  if w = "sept".toList then some 8 else nameIndex? Date.monthNames w

/-- The number of a day of the week. -/
def weekday? (w : List Char) : Option Nat :=
  match String.ofList w with
  | "tues" => some 2
  | "wednes" => some 3
  | "thur" | "thurs" => some 4
  | _ => nameIndex? Date.weekdayNames w

/-- Time zones, with the minutes by which they are ahead. -/
def zones : List (String × Int) :=
  [("gmt", 0), ("ut", 0), ("utc", 0), ("wet", 0), ("west", 60), ("bst", 60), ("art", -180),
   ("brt", -180), ("brst", -120), ("nst", -210), ("ndt", -150), ("ast", -240), ("adt", -180),
   ("clt", -240), ("clst", -180), ("est", -300), ("edt", -240), ("cst", -360), ("cdt", -300),
   ("mst", -420), ("mdt", -360), ("pst", -480), ("pdt", -420), ("akst", -540), ("akdt", -480),
   ("hst", -600), ("hast", -600), ("hadt", -540), ("sst", -720), ("wat", 60), ("cet", 60),
   ("cest", 120), ("met", 60), ("mez", 60), ("mest", 120), ("mesz", 120), ("eet", 120),
   ("eest", 180), ("cat", 120), ("sast", 120), ("eat", 180), ("msk", 180), ("msd", 240),
   ("ist", 330), ("sgt", 480), ("kst", 540), ("jst", 540), ("gst", 600), ("nzst", 720),
   ("nzdt", 780)]

/-- The minutes by which the zone of a single letter is ahead. -/
def letterZone? (c : Char) : Option Int :=
  let n : Int := c.toNat - 'a'.toNat
  if 'a' ≤ c ∧ c ≤ 'i' then some (60 * (n + 1))
  else if 'k' ≤ c ∧ c ≤ 'm' then some (60 * n)
  else if 'n' ≤ c ∧ c ≤ 'y' then some (-60 * (n - 12))
  else if c = 'z' then some 0
  else none

/-- The minutes by which a zone is ahead. -/
def zone? (w : List Char) : Option Int :=
  match w with
  | [c] => letterZone? c
  | _ => zones.lookup (String.ofList (w.filter (· ≠ '.')))

/-- Numbers in words, for steps. -/
def ordinal? (w : List Char) : Option Int :=
  match String.ofList w with
  | "last" => some (-1)
  | "this" => some 0
  | "next" | "first" => some 1
  | "third" => some 3
  | "fourth" => some 4
  | "fifth" => some 5
  | "sixth" => some 6
  | "seventh" => some 7
  | "eighth" => some 8
  | "ninth" => some 9
  | "tenth" => some 10
  | "eleventh" => some 11
  | "twelfth" => some 12
  | _ => none

/-! ## What is said -/

/-- A step in time. -/
structure Step where
  months : Int
  days : Int
  nanoseconds : Int

/-- Some units of time. -/
def Step.ofUnit? (n : Int) (name : List Char) : Option Step :=
  let name := if name.getLast? = some 's' ∧ 3 < name.length then name.dropLast else name
  match String.ofList name with
  | "year" => some ⟨12 * n, 0, 0⟩
  | "month" => some ⟨n, 0, 0⟩
  | "fortnight" => some ⟨0, 14 * n, 0⟩
  | "week" => some ⟨0, 7 * n, 0⟩
  | "day" => some ⟨0, n, 0⟩
  | "hour" => some ⟨0, 0, n * 3600 * perSecond⟩
  | "minute" | "min" => some ⟨0, 0, n * 60 * perSecond⟩
  | "second" | "sec" => some ⟨0, 0, n * perSecond⟩
  | _ => none

/-- The days that a word such as `tomorrow` steps. -/
def Step.ofDay? (name : List Char) : Option Step :=
  match String.ofList name with
  | "now" | "today" => some ⟨0, 0, 0⟩
  | "yesterday" => some ⟨0, -1, 0⟩
  | "tomorrow" => some ⟨0, 1, 0⟩
  | _ => none

/-- What was said so far. -/
structure Wording where
  date : Option Date
  hasYear : Bool
  /-- The time of day in nanoseconds. -/
  time : Option Int
  weekday : Option (Nat × Int)
  /-- The nanoseconds by which local time is ahead. -/
  zone : Option Int
  months : Int
  days : Int
  nanoseconds : Int
  hasSteps : Bool

/-- A step of reading: what was said, and what is left. -/
abbrev Said := Option (Wording × List Token)

namespace Wording

def silent : Wording := ⟨none, false, none, none, none, 0, 0, 0, false⟩

/-- Takes a step, back if the word `ago` follows. -/
def move (w : Wording) (s : Step) (ts : List Token) : Wording × List Token :=
  let (factor, ts) : Int × List Token := match ts with
    | .word ['a', 'g', 'o'] :: rest => (-1, rest)
    | .word ['h', 'e', 'n', 'c', 'e'] :: rest => (1, rest)
    | _ => (1, ts)
  ({ w with
    months := w.months + factor * s.months
    days := w.days + factor * s.days
    nanoseconds := w.nanoseconds + factor * s.nanoseconds
    hasSteps := true }, ts)

/-- Says a date; it is checked when all is said, as its year may follow. -/
def onDate (w : Wording) (d : Date) (hasYear : Bool) : Option Wording :=
  if w.date.isSome then none else some { w with date := some d, hasYear }

/-- Says a time zone. -/
def inZone (w : Wording) (minutes : Int) : Option Wording :=
  if w.zone.isSome ∨ 24 * 60 < minutes.natAbs then none
  else some { w with zone := some (minutes * 60 * perSecond) }

/-- Says a day of the week. -/
def onWeekday (w : Wording) (day : Nat) (weeks : Int) : Option Wording :=
  if w.weekday.isSome then none else some { w with weekday := some (day, weeks) }

end Wording

/-- A year of which perhaps only the last two digits are given. -/
def fullYear (n digits : Nat) : Int :=
  if digits ≤ 2 then (if n < 69 then 2000 + n else 1900 + n : Nat) else n

/-- Whether a date is on the calendar. -/
def isOnCalendar (d : Date) : Bool :=
  1 ≤ d.month && d.month ≤ 12 && 1 ≤ d.day && Date.ofDays d.toDays = d

/-- A date, if it is on the calendar. -/
def date? (year : Int) (month day : Nat) : Option Date :=
  let d : Date := ⟨year, month, day⟩
  if isOnCalendar d then some d else none

/-- A time of day in nanoseconds. -/
def timeOfDay? (hour minute second : Nat) (part : Int) : Option Int :=
  if hour < 24 ∧ minute < 60 ∧ second < 61 then
    some ((hour * 3600 + minute * 60 + second : Nat) * perSecond + part)
  else none

/-- An hour with the half of the day that it is in. -/
def inHalf? (hour : Nat) (half : List Char) : Option Nat :=
  match String.ofList half with
  | "am" | "a.m." => if hour = 0 ∨ 12 < hour then none else some (hour % 12)
  | "pm" | "p.m." => if hour = 0 ∨ 12 < hour then none else some (hour % 12 + 12)
  | _ => none

/-- A distance from the time zone 0 in minutes, and what follows it. -/
def distance? : List Token → Option (Int × List Token)
  | .number (some c) n digits none :: rest =>
    let signed := fun (minutes : Nat) => if c = '-' then -(minutes : Int) else minutes
    match rest with
    | .other ':' :: .number none m _ none :: rest => some (signed (60 * n + m), rest)
    | _ =>
      if digits ≤ 2 then some (signed (60 * n), rest)
      else some (signed (60 * (n / 100) + n % 100), rest)
  | _ => none

/-- Whether a step in a unit begins, so that its number is no distance from a time zone. -/
def isStep : List Token → Bool
  | .number _ _ _ _ :: .word name :: _ => (Step.ofUnit? 1 name).isSome
  | _ => false

/-- What may follow a time of day: a half of the day or a distance from the time zone 0. -/
def afterTime (w : Wording) (hour minute second : Nat) (part : Int) (ts : List Token) : Said := do
  if w.time.isSome ∨ 60 ≤ second then none
  let at12 := fun (hour : Nat) => do
    return { w with time := some (← timeOfDay? hour minute second part) }
  match ts with
  | .word half :: rest =>
    match inHalf? hour half with
    | some hour => return (← at12 hour, rest)
    | none => return (← at12 hour, ts)
  | _ =>
    match distance? ts with
    | some (minutes, rest) => return (← (← at12 hour).inZone minutes, rest)
    | none => return (← at12 hour, ts)

/-- A number by itself: a year that was missing, a date without signs, or a time of day. -/
def bareNumber (w : Wording) (n digits : Nat) (ts : List Token) : Said := do
  match w.date with
  | some d =>
    if !w.hasYear && !w.hasSteps && (w.time.isSome || 2 < digits) then
      return ({ w with date := some { d with year := fullYear n digits }, hasYear := true }, ts)
  | none => pure ()
  if 4 < digits then
    let year := if digits ≤ 6 then fullYear (n / 10000) (digits - 4) else (n / 10000 : Nat)
    return (← w.onDate ⟨year, n / 100 % 100, n % 100⟩ true, ts)
  else if digits ≤ 2 then afterTime w n 0 0 0 ts
  else afterTime w (n / 100) (n % 100) 0 0 ts

/-- Reads what begins with a number without a sign. -/
def numberSaid (year : Int) (w : Wording) (n digits : Nat) (ts : List Token) : Said :=
  match ts with
  | .other ':' :: .number none m _ none :: .other ':' :: .number none s _ part :: rest =>
    afterTime w n m s (part.getD 0) rest
  | .other ':' :: .number none m _ none :: rest => afterTime w n m 0 0 rest
  | .number (some '-') m _ none :: .number (some '-') d _ none :: rest => do
    let rest := match rest with
      | .word ['t'] :: rest => rest
      | rest => rest
    return (← w.onDate ⟨fullYear n digits, m, d⟩ true, rest)
  | .other '/' :: .number none m _ none :: .other '/' :: .number none y places none :: rest => do
    let date : Date := if 4 ≤ digits then ⟨n, m, y⟩ else ⟨fullYear y places, n, m⟩
    return (← w.onDate date true, rest)
  | .other '/' :: .number none m _ none :: rest => do
    return (← w.onDate ⟨year, n, m⟩ false, rest)
  | .word name :: rest =>
    match month? name, inHalf? n name, Step.ofUnit? n name, weekday? name with
    | some month, _, _, _ =>
      match rest with
      | .number (some '-') y places none :: rest => do
        return (← w.onDate ⟨fullYear y places, month + 1, n⟩ true, rest)
      | .number none y places none :: rest =>
        if rest.head? = some (.other ':') then do
          return (← w.onDate ⟨year, month + 1, n⟩ false, .number none y places none :: rest)
        else do return (← w.onDate ⟨fullYear y places, month + 1, n⟩ true, rest)
      | _ => do return (← w.onDate ⟨year, month + 1, n⟩ false, rest)
    | none, some _, _, _ => afterTime w n 0 0 0 ts
    | none, none, some step, _ => some (w.move step rest)
    | none, none, none, some day => do return (← w.onWeekday day n, rest)
    | none, none, none, none => bareNumber w n digits ts
  | _ => bareNumber w n digits ts

/-- Reads what begins with the name of a month. -/
def monthSaid (year : Int) (w : Wording) (month : Nat) (ts : List Token) : Said := do
  match ts with
  | .number none d _ none :: .other ',' :: .number none y places none :: rest =>
    return (← w.onDate ⟨fullYear y places, month + 1, d⟩ true, rest)
  | .number (some '-') d _ none :: .number (some '-') y places none :: rest =>
    return (← w.onDate ⟨fullYear y places, month + 1, d⟩ true, rest)
  | .number none d _ none :: rest => return (← w.onDate ⟨year, month + 1, d⟩ false, rest)
  | _ => none

/-- Reads what begins with a word. -/
def wordSaid (year : Int) (w : Wording) (name : List Char) (ts : List Token) : Said :=
  match month? name, weekday? name, ordinal? name, Step.ofDay? name with
  | some month, _, _, _ => monthSaid year w month ts
  | none, some day, _, _ => do
    let rest := match ts with
      | .other ',' :: rest => rest
      | rest => rest
    return (← w.onWeekday day 0, rest)
  | none, none, some n, _ =>
    match ts with
    | .word unit :: rest =>
      match Step.ofUnit? n unit, weekday? unit with
      | some step, _ => some (w.move step rest)
      | none, some day => do return (← w.onWeekday day n, rest)
      | none, none => none
    | _ => none
  | none, none, none, some step => some (w.move step ts)
  | none, none, none, none =>
    match Step.ofUnit? 1 name, zone? name with
    | some step, _ => some (w.move step ts)
    | none, some minutes =>
      match (if isStep ts then none else distance? ts) with
      | some (more, rest) => do return (← w.inZone (minutes + more), rest)
      | none => do return (← w.inZone minutes, ts)
    | none, none => none

/-- Reads everything that is said. A date without a year is in the year `year`. -/
def readSaid (year : Int) : Nat → Wording → List Token → Option Wording
  | 0, _, _ => none
  | fuel + 1, w, ts =>
    match ts with
    | [] => some w
    | .number none n digits none :: rest => do
      let (w, rest) ← numberSaid year w n digits rest
      readSaid year fuel w rest
    | .number sign n _ part :: .word name :: rest => do
      let n : Int := if sign = some '-' then -(n : Int) else n
      let step ← Step.ofUnit? n name
      let more := match part with
        | some part => if sign = some '-' then -part else part
        | none => 0
      let isSeconds := (Step.ofUnit? 1 name).any fun one => one.nanoseconds = perSecond
      if more ≠ 0 ∧ !isSeconds then none
      let (w, rest) := w.move { step with nanoseconds := step.nanoseconds + more } rest
      readSaid year fuel w rest
    | .word name :: rest => do
      let (w, rest) ← wordSaid year w name rest
      readSaid year fuel w rest
    | _ => none

/-! ## The moment -/

/-- The moment that was said, as seen from the current one. -/
def Wording.moment (w : Wording) (now : Int) : Int :=
  let zone := w.zone.getD 0
  let today := Moment.ofNanoseconds (now + zone)
  let date := w.date.getD today.date
  let days := match w.weekday with
    | some (day, weeks) =>
      if w.date.isSome then date.toDays
      else
        let ahead : Int := ((day + 7 - date.weekday) % 7 : Nat)
        let weeks := if 0 < weeks ∧ ahead ≠ 0 then weeks - 1 else weeks
        date.toDays + ahead + 7 * weeks
    | none => date.toDays
  let time := match w.time with
    | some time => time
    | none =>
      if w.hasSteps ∧ w.date.isNone ∧ w.weekday.isNone then
        now + zone - today.date.toDays * perDay * perSecond
      else 0
  let start := Moment.ofNanoseconds (days * perDay * perSecond + time)
  let months := start.date.month - 1 + w.months
  let date : Date :=
    ⟨start.date.year + months.fdiv 12, (months.fmod 12).toNat + 1, start.date.day⟩
  let moved := { start with date := .ofDays (date.toDays + w.days) }
  moved.toNanoseconds + w.nanoseconds - zone

/-- The moment that a text stands for, in nanoseconds since 1970. -/
def ofText? (now : Int) (s : List Char) : Option Int := do
  match tokens (s.length + 1) s with
  | [.other '@', .number sign n _ part] =>
    let n : Int := n * perSecond + part.getD 0
    return if sign = some '-' then -n else n
  | ts =>
    let w ← readSaid (Moment.ofNanoseconds now).date.year (ts.length + 1) .silent ts
    if !w.date.all isOnCalendar then none
    return w.moment now

end ProgramRepair.Moment
