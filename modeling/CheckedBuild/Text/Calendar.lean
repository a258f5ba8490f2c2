/-!
# Calendar

Seconds since the beginning of 1970 and the dates that they fall on, and how dates are written.
Years are counted from March on while dates are computed, so that the day that leap years add comes
last; 400 years have always the same number of days.
-/

namespace CheckedBuild.Text.Calendar

/-- A point in time: the fields of the day and of the clock. -/
structure Date where
  year : Int
  /-- From 1 on. -/
  month : Nat
  /-- From 1 on. -/
  day : Nat
  hour : Nat := 0
  minute : Nat := 0
  second : Nat := 0
  /-- Billionths of a second. -/
  fraction : Nat := 0
deriving DecidableEq, Repr

/-- The days of 400 years. -/
def cycleDays : Int := 146097

/-- The day that counts as the first one of a cycle, before the beginning of 1970. -/
def cycleStart : Int := 719468

/-- The days from the beginning of 1970 to a date. -/
def Date.days (date : Date) : Int :=
  let year := if date.month ≤ 2 then date.year - 1 else date.year
  let month : Int := if date.month ≤ 2 then date.month + 9 else date.month - 3
  let inCycle := year % 400
  let dayOfYear := (153 * month + 2) / 5 + date.day - 1
  year / 400 * cycleDays + inCycle * 365 + inCycle / 4 - inCycle / 100 + dayOfYear - cycleStart

/-- The date of a day. -/
def dateOfDays (days : Int) : Date :=
  let shifted := days + cycleStart
  let inCycle := shifted % cycleDays
  let yearInCycle :=
    (inCycle - inCycle / 1460 + inCycle / 36524 - inCycle / 146096) / 365
  let dayOfYear := inCycle - (365 * yearInCycle + yearInCycle / 4 - yearInCycle / 100)
  let month := (5 * dayOfYear + 2) / 153
  let year := shifted / cycleDays * 400 + yearInCycle
  { year := if 10 ≤ month then year + 1 else year
    month := (if 10 ≤ month then month - 9 else month + 3).toNat
    day := (dayOfYear - (153 * month + 2) / 5 + 1).toNat }

/-- The seconds from the beginning of 1970 to a date. -/
def Date.seconds (date : Date) : Int :=
  date.days * 86400 + date.hour * 3600 + date.minute * 60 + date.second

/-- The date of a number of seconds. -/
def dateOf (seconds : Int) (fraction : Nat) : Date :=
  let inDay := (seconds % 86400).toNat
  { dateOfDays (seconds / 86400) with
    hour := inDay / 3600, minute := inDay / 60 % 60, second := inDay % 60, fraction }

/-- The day of the week, counted from Sunday on. -/
def Date.weekday (date : Date) : Nat := ((date.days + 4) % 7).toNat

/-- The day of the year, counted from zero on. -/
def Date.yearday (date : Date) : Nat :=
  (date.days - ({ date with month := 1, day := 1 } : Date).days).toNat

/-- The names of the months. -/
def monthNames : List String :=
  ["January", "February", "March", "April", "May", "June", "July", "August", "September",
   "October", "November", "December"]

/-- The names of the days of a week. -/
def weekdayNames : List String :=
  ["Sunday", "Monday", "Tuesday", "Wednesday", "Thursday", "Friday", "Saturday"]

/-- The first three characters of a name. -/
def shortened (name : String) : List Char := name.toList.take 3

/-- The year and the number of the week that begins on a Monday and has its Thursday in the
year. -/
def Date.week (date : Date) : Int × Nat :=
  let thursday := dateOfDays (date.days - ((date.weekday + 6) % 7 : Nat) + 3)
  (thursday.year, thursday.yearday / 7 + 1)

/-- How a number is filled up: with zeros, with blanks or not at all. -/
inductive Filling where
  | zeros
  | blanks
  | nothing
deriving DecidableEq

/-- A number with at least so many characters. -/
def filled (filling : Filling) (width : Nat) (n : Int) : List Char :=
  let digits := Nat.toDigits 10 n.natAbs
  let sign := if n < 0 then ['-'] else []
  let missing := width - (sign.length + digits.length)
  match filling with
  | .zeros => sign ++ List.replicate missing '0' ++ digits
  | .blanks => List.replicate missing ' ' ++ sign ++ digits
  | .nothing => sign ++ digits

/-- What stands for a field of a date: a number with its usual filling and width, or a text. -/
inductive Shown where
  | number (filling : Filling) (width : Nat) (n : Int)
  | text (s : List Char)
  /-- Fields that are written with letters of their own. -/
  | format (s : String)
  /-- Billionths, of which only the first digits are wanted. -/
  | fraction

/-- The hour on a clock with twelve of them. -/
def Date.clockHour (date : Date) : Nat := if date.hour % 12 = 0 then 12 else date.hour % 12

/-- What a letter behind a percent sign stands for. -/
def Date.field? (date : Date) (letter : Char) : Option Shown :=
  let two (n : Nat) : Shown := .number .zeros 2 n
  let name (names : List String) (i : Nat) : List Char := ((names[i]?).getD "").toList
  match letter with
  | 'a' => some (.text ((name weekdayNames date.weekday).take 3))
  | 'A' => some (.text (name weekdayNames date.weekday))
  | 'b' | 'h' => some (.text ((name monthNames (date.month - 1)).take 3))
  | 'B' => some (.text (name monthNames (date.month - 1)))
  | 'c' => some (.format "%a %b %e %H:%M:%S %Y")
  | 'C' => some (two (date.year / 100).toNat)
  | 'd' => some (two date.day)
  | 'D' | 'x' => some (.format "%m/%d/%y")
  | 'e' => some (.number .blanks 2 date.day)
  | 'F' => some (.format "%Y-%m-%d")
  | 'g' => some (two (date.week.1 % 100).toNat)
  | 'G' => some (.number .zeros 4 date.week.1)
  | 'H' => some (two date.hour)
  | 'I' => some (two date.clockHour)
  | 'j' => some (.number .zeros 3 (date.yearday + 1))
  | 'k' => some (.number .blanks 2 date.hour)
  | 'l' => some (.number .blanks 2 date.clockHour)
  | 'm' => some (two date.month)
  | 'M' => some (two date.minute)
  | 'n' => some (.text ['\n'])
  | 'N' => some .fraction
  | 'p' => some (.text (if date.hour < 12 then "AM" else "PM").toList)
  | 'P' => some (.text (if date.hour < 12 then "am" else "pm").toList)
  | 'q' => some (.number .zeros 1 ((date.month + 2) / 3 : Nat))
  | 'r' => some (.format "%I:%M:%S %p")
  | 'R' => some (.format "%H:%M")
  | 's' => some (.number .zeros 1 date.seconds)
  | 'S' => some (two date.second)
  | 't' => some (.text ['\t'])
  | 'T' | 'X' => some (.format "%H:%M:%S")
  | 'u' => some (.number .zeros 1 ((date.weekday + 6) % 7 + 1 : Nat))
  | 'U' => some (two ((date.yearday + 7 - date.weekday) / 7))
  | 'V' => some (two date.week.2)
  | 'w' => some (.number .zeros 1 date.weekday)
  | 'W' => some (two ((date.yearday + 7 - (date.weekday + 6) % 7) / 7))
  | 'y' => some (two (date.year % 100).toNat)
  | 'Y' => some (.number .zeros 4 date.year)
  | 'z' => some (.text "+0000".toList)
  | 'Z' => some (.text "UTC".toList)
  | '%' => some (.text ['%'])
  | _ => none

/-- The marks between a percent sign and its letter. -/
structure Marks where
  filling : Option Filling := none
  upper : Bool := false
  swapped : Bool := false
  colons : Nat := 0
  width : Option Nat := none

/-- Takes marks off the front of a format. -/
def takeMarks (marks : Marks) : List Char → Marks × List Char
  | '-' :: rest => takeMarks { marks with filling := some .nothing } rest
  | '_' :: rest => takeMarks { marks with filling := some .blanks } rest
  | '0' :: rest =>
    if marks.width.isSome then takeMarks { marks with width := marks.width.map (· * 10) } rest
    else takeMarks { marks with filling := some .zeros } rest
  | '^' :: rest => takeMarks { marks with upper := true } rest
  | '#' :: rest => takeMarks { marks with swapped := true } rest
  | ':' :: rest => takeMarks { marks with colons := marks.colons + 1 } rest
  | 'E' :: rest | 'O' :: rest => takeMarks marks rest
  | c :: rest =>
    if c.isDigit then
      takeMarks { marks with width := some (marks.width.getD 0 * 10 + (c.toNat - 48)) } rest
    else (marks, c :: rest)
  | [] => (marks, [])

/-- A text with changed letters. -/
def Marks.letters (marks : Marks) (s : List Char) : List Char :=
  if marks.upper then s.map Char.toUpper
  else if marks.swapped then
    if s.all fun c => !c.isLower then s.map Char.toLower else s.map Char.toUpper
  else s

/-- A date written as a format says. What has no meaning in it stays as it is. -/
def Date.format (date : Date) (fuel : Nat) (format : List Char) : List Char :=
  match fuel, format with
  | fuel + 1, '%' :: rest =>
    let (marks, tail) := takeMarks {} rest
    match tail with
    | [] => '%' :: rest
    | letter :: after =>
      let padded (s : List Char) : List Char :=
        let missing := marks.width.getD 0 - s.length
        let sign := if marks.filling = some .zeros then '0' else ' '
        List.replicate missing sign ++ s
      let shown := match date.field? letter with
        | none => '%' :: rest.take (rest.length - after.length)
        | some (.number filling width n) =>
          filled (marks.filling.getD filling) (marks.width.getD width) n
        | some (.text s) =>
          let s := if letter = 'z' && marks.colons = 1 then "+00:00".toList
            else if letter = 'z' && marks.colons = 2 then "+00:00:00".toList
            else if letter = 'z' && marks.colons = 3 then "+00".toList else s
          padded (marks.letters s)
        | some (.format inner) => padded (marks.letters (date.format fuel inner.toList))
        | some .fraction =>
          let digits := filled .zeros 9 date.fraction
          let kept := digits.take (marks.width.getD 9)
          if marks.filling = some .nothing then (kept.reverse.dropWhile (· = '0')).reverse
          else kept
      shown ++ date.format fuel after
  | fuel + 1, c :: rest => c :: date.format fuel rest
  | _, rest => rest

/-- A date written as a format says. -/
def Date.written (date : Date) (format : List Char) : List Char :=
  date.format (format.length + 40) format

end CheckedBuild.Text.Calendar
