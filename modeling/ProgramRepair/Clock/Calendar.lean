/-!
# The calendar

Days are counted from the first of January 1970 in the Gregorian calendar, and a
moment is a count of nanoseconds from the beginning of that day. A moment can be
taken apart into a date and a time of day, and put together again.
-/

namespace ProgramRepair

/-- A day of the calendar. Months and days are counted from 1. -/
structure Date where
  year : Int
  month : Nat
  day : Nat
deriving DecidableEq, Repr, Inhabited

namespace Date

/-- The days in 400 years, after which the calendar repeats. -/
def cycleDays : Int := 146097

/-- The days from the first of March of the year 0 to the first of January 1970. -/
def daysToEpoch : Int := 719468

/-- The number of a day. Years are taken to begin in March, so that a day more in February comes
last; a month or a day that is too large counts on into the next year or month. -/
def toDays (d : Date) : Int :=
  let months : Int := d.year * 12 + d.month - 3
  let year := months.fdiv 12
  let month := months.fmod 12
  365 * year + year.fdiv 4 - year.fdiv 100 + year.fdiv 400 + (153 * month + 2).fdiv 5 +
    (d.day - 1) - daysToEpoch

/-- The day with a number. -/
def ofDays (n : Int) : Date :=
  let z := n + daysToEpoch
  let cycle := z.fdiv cycleDays
  let inCycle := z.fmod cycleDays
  let yearOfCycle := (inCycle - inCycle / 1460 + inCycle / 36524 - inCycle / 146096) / 365
  let inYear := inCycle - (365 * yearOfCycle + yearOfCycle / 4 - yearOfCycle / 100)
  let month := (5 * inYear + 2) / 153
  let day := inYear - (153 * month + 2) / 5 + 1
  let year := yearOfCycle + cycle * 400
  if month < 10 then ⟨year, (month + 3).toNat, day.toNat⟩
  else ⟨year + 1, (month - 9).toNat, day.toNat⟩

/-- The day of the week, from 0 for Sunday. -/
def weekday (d : Date) : Nat := ((d.toDays + 4).fmod 7).toNat

/-- The number of days of the year before a day. -/
def dayOfYear (d : Date) : Nat := (d.toDays - toDays ⟨d.year, 1, 1⟩).toNat

/-- The names of the days of the week. -/
def weekdayNames : List String :=
  ["Sunday", "Monday", "Tuesday", "Wednesday", "Thursday", "Friday", "Saturday"]

/-- The names of the months. -/
def monthNames : List String :=
  ["January", "February", "March", "April", "May", "June", "July", "August", "September", "October",
   "November", "December"]

/-- The year and the week that a day belongs to when weeks begin on Monday and belong to the year of
their Thursday. -/
def week (d : Date) : Int × Nat :=
  let thursday := ofDays (d.toDays - ((d.weekday + 6) % 7 : Nat) + 3)
  (thursday.year, thursday.dayOfYear / 7 + 1)

end Date

/-- A moment, taken apart. -/
structure Moment where
  date : Date
  hour : Nat
  minute : Nat
  second : Nat
  nanosecond : Nat
deriving DecidableEq, Repr, Inhabited

namespace Moment

/-- The nanoseconds in a second. -/
def perSecond : Int := 1000000000

/-- The seconds in a day. -/
def perDay : Int := 86400

/-- The moment that is some nanoseconds after the beginning of 1970. -/
def ofNanoseconds (n : Int) : Moment :=
  let seconds := n.fdiv perSecond
  let inDay := (seconds.fmod perDay).toNat
  { date := .ofDays (seconds.fdiv perDay)
    hour := inDay / 3600
    minute := inDay / 60 % 60
    second := inDay % 60
    nanosecond := (n.fmod perSecond).toNat }

/-- The seconds from the beginning of 1970 to a moment. -/
def toSeconds (m : Moment) : Int :=
  m.date.toDays * perDay + (m.hour * 3600 + m.minute * 60 + m.second : Nat)

/-- The nanoseconds from the beginning of 1970 to a moment. -/
def toNanoseconds (m : Moment) : Int := m.toSeconds * perSecond + m.nanosecond

/-! ## Printing -/

/-- A number with a sign in front of it until it is as wide as asked for. -/
def padded (fill : Char) (width : Nat) (n : Int) : List Char :=
  let ds := (toString n.natAbs).toList
  (if n < 0 then ['-'] else []) ++ List.replicate (width - ds.length) fill ++ ds

/-- The first letters of a name. -/
def short (name : String) : List Char := name.toList.take 3

/-- How a directive of a format fills up its text. -/
inductive Filling where
  | usual
  | none
  | zeros
  | blanks
deriving DecidableEq

/-- The text of a directive of a format for the moment. The value is none if there is no such
directive. -/
def directive? (m : Moment) (f : Filling) (c : Char) : Option (List Char) :=
  let number := fun (usual : Char) (width : Nat) (n : Int) =>
    match f with
    | .usual => padded usual width n
    | .none => padded '0' 0 n
    | .zeros => padded '0' width n
    | .blanks => padded ' ' width n
  let d := m.date
  let weekdayName := (Date.weekdayNames[d.weekday]?).getD ""
  let monthName := (Date.monthNames[d.month - 1]?).getD ""
  let hour12 := if m.hour % 12 = 0 then 12 else m.hour % 12
  let half := if m.hour < 12 then "AM" else "PM"
  let two := fun (n : Nat) => padded '0' 2 n
  let time := two m.hour ++ ':' :: two m.minute ++ ':' :: two m.second
  match c with
  | 'Y' => some (number '0' 4 d.year)
  | 'C' => some (number '0' 2 (d.year.fdiv 100))
  | 'y' => some (number '0' 2 (d.year.fmod 100))
  | 'm' => some (number '0' 2 d.month)
  | 'd' => some (number '0' 2 d.day)
  | 'e' => some (number ' ' 2 d.day)
  | 'H' => some (number '0' 2 m.hour)
  | 'k' => some (number ' ' 2 m.hour)
  | 'I' => some (number '0' 2 hour12)
  | 'l' => some (number ' ' 2 hour12)
  | 'M' => some (number '0' 2 m.minute)
  | 'S' => some (number '0' 2 m.second)
  | 'N' => some (padded '0' 9 m.nanosecond)
  | 's' => some (number '0' 1 m.toSeconds)
  | 'j' => some (number '0' 3 (d.dayOfYear + 1))
  | 'u' => some (number '0' 1 (if d.weekday = 0 then 7 else d.weekday))
  | 'w' => some (number '0' 1 d.weekday)
  | 'U' => some (number '0' 2 ((d.dayOfYear + 7 - d.weekday) / 7))
  | 'W' => some (number '0' 2 ((d.dayOfYear + 7 - (d.weekday + 6) % 7) / 7))
  | 'V' => some (number '0' 2 d.week.2)
  | 'G' => some (number '0' 4 d.week.1)
  | 'g' => some (number '0' 2 (d.week.1.fmod 100))
  | 'q' => some (number '0' 1 ((d.month + 2) / 3))
  | 'a' => some (short weekdayName)
  | 'A' => some weekdayName.toList
  | 'b' | 'h' => some (short monthName)
  | 'B' => some monthName.toList
  | 'p' => some half.toList
  | 'P' => some (half.toList.map Char.toLower)
  | 'Z' => some "UTC".toList
  | 'z' => some "+0000".toList
  | 'n' => some ['\n']
  | 't' => some ['\t']
  | '%' => some ['%']
  | 'F' => some (padded '0' 4 d.year ++ '-' :: two d.month ++ '-' :: two d.day)
  | 'D' | 'x' => some (two d.month ++ '/' :: two d.day ++ '/' :: padded '0' 2 (d.year.fmod 100))
  | 'T' | 'X' => some time
  | 'R' => some (two m.hour ++ ':' :: two m.minute)
  | 'r' => some (two hour12 ++ time.drop 2 ++ ' ' :: half.toList)
  | 'c' => some (short weekdayName ++ ' ' :: short monthName ++ ' ' :: padded ' ' 2 d.day ++ ' ' ::
      time ++ ' ' :: padded '0' 4 d.year)
  | _ => none

/-- The distance from the time zone 0 with some colons in it. -/
def zoneText : Nat → Option (List Char)
  | 0 => some "+0000".toList
  | 1 => some "+00:00".toList
  | 2 => some "+00:00:00".toList
  | 3 => some "+00".toList
  | _ => none

/-- Whether a directive stands for a text, which is filled up with blanks. -/
def isWordy (c : Char) : Bool := "aAbBhcDFTRrxXpPZ".toList.contains c

/-- A text in the other case, as the flag `#` asks for it: names in capitals, but signs that are in
capitals in small letters. -/
def otherCase (c : Char) (text : List Char) : List Char :=
  if c = 'p' ∨ c = 'Z' then text.map Char.toLower
  else if "aAbBh".toList.contains c then text.map Char.toUpper
  else text

/-- A text of a directive as wide as it is asked for. -/
def widened (c : Char) (filling : Filling) (columns : Nat) (text : List Char) : List Char :=
  let room := columns - text.length
  match filling with
  | .none => text
  | .blanks => List.replicate room ' ' ++ text
  | .zeros => List.replicate room '0' ++ text
  | .usual =>
    if c = 'N' then text ++ List.replicate room '0'
    else
      let fill := if isWordy c ∨ "ekl".toList.contains c then ' ' else '0'
      List.replicate room fill ++ text

/-- The digits of a part of a second that are asked for. -/
def partOfSecond (filling : Filling) (columns : Nat) (text : List Char) : List Char :=
  let text := if columns = 0 then text else text.take columns
  if filling = .blanks then
    let zeros := text.reverse.takeWhile (· = '0')
    let kept := max 1 (text.length - zeros.length)
    text.take kept ++ List.replicate (text.length - kept) ' '
  else text

/-- A moment in the way of a format. -/
def format (m : Moment) : Nat → List Char → List Char
  | 0, _ => []
  | _ + 1, [] => []
  | fuel + 1, '%' :: s =>
    let flags := s.takeWhile "-_0^#+".toList.contains
    let width := (s.drop flags.length).takeWhile Char.isDigit
    let rest := (s.drop flags.length).drop width.length
    let colons := rest.takeWhile (· = ':')
    let rest := rest.drop colons.length
    let modifier := if colons.isEmpty then rest.take 1 |>.filter "EO".toList.contains else []
    let rest := rest.drop modifier.length
    let filling := match (flags.filter fun c => c ≠ '^' && c ≠ '#').getLast? with
      | some '-' => Filling.none
      | some '_' => .blanks
      | some _ => .zeros
      | none => .usual
    let columns := width.foldl (fun n d => 10 * n + (d.toNat - '0'.toNat)) 0
    let plain := '%' :: flags ++ width ++ colons ++ modifier
    match rest with
    | [] => plain
    | c :: rest =>
      let found := if colons.isEmpty then m.directive? filling c
        else if c = 'z' then zoneText colons.length else none
      let text := match found with
        | some text =>
          if c = '%' ∧ 1 < plain.length then plain ++ [c]
          else
            let text := if c = 'N' then partOfSecond filling columns text else text
            let text := widened c filling columns text
            if flags.contains '#' then otherCase c text else text
        | none => plain ++ [c]
      (if flags.contains '^' then text.map Char.toUpper else text) ++ m.format fuel rest
  | fuel + 1, c :: s => c :: m.format fuel s

end Moment

end ProgramRepair
