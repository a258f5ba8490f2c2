import CheckedBuild.Text.Calendar
import CheckedBuild.Text.Pieces

/-!
# Reading dates

A point in time is given as seconds behind an at sign, or by words: a date, a time of day, a name
that stands for a day, and distances from there, all of them in any order. What is not given is
taken from the present day; a date without a time of day begins at midnight.
-/

namespace CheckedBuild.Text.Calendar

/-- What the words read so far say. -/
structure Reading where
  date : Option (Int × Nat × Nat) := none
  /-- Hour, minute, second and fraction. -/
  time : Option (Nat × Nat × Nat × Nat) := none
  weekday : Option Nat := none
  /-- Seconds by which the clock is ahead. -/
  zone : Int := 0
  months : Int := 0
  days : Int := 0
  seconds : Int := 0
  /-- Whether something is said about the distance from the present. -/
  isRelative : Bool := false
  /-- A number whose meaning the next word decides. -/
  pending : Option Int := none
  /-- A day or a year without the month it goes with. -/
  month : Option Nat := none

/-- The number that digits stand for. -/
def numberOf? (s : List Char) : Option Nat :=
  if s.isEmpty || !s.all Char.isDigit then none
  else some (s.foldl (fun n c => 10 * n + (c.toNat - 48)) 0)

/-- Billionths from the digits behind a point. -/
def fractionOf (digits : List Char) : Nat :=
  let digits := digits.take 9
  (numberOf? (digits ++ List.replicate (9 - digits.length) '0')).getD 0

/-- The place of a name in a list, of which three letters are enough. -/
def namePlace? (names : List String) (s : List Char) : Option Nat :=
  if s.length < 3 then none
  else names.findIdx? fun name => s.isPrefixOf (name.toLower.toList)

/-- The seconds that a zone is ahead by. -/
def zoneOf? (s : List Char) : Option Int :=
  match String.ofList s with
  | "" | "z" | "utc" | "gmt" => some 0
  | _ =>
    match s with
    | sign :: rest =>
      if sign ≠ '+' && sign ≠ '-' then none
      else
        let digits := rest.filter (· ≠ ':')
        let ahead? := match numberOf? digits with
          | some n => some (if digits.length ≤ 2 then n * 3600 else n / 100 * 3600 + n % 100 * 60)
          | none => none
        ahead?.map fun (n : Nat) => if sign = '-' then -(n : Int) else n
    | [] => some 0

/-- The seconds that a zone with a letter for its name is ahead by. -/
def letterZone? : List Char → Option Int
  | [c] =>
    if 'a' ≤ c && c ≤ 'i' then some (3600 * (c.toNat - 96 : Nat))
    else if 'k' ≤ c && c ≤ 'm' then some (3600 * (c.toNat - 97 : Nat))
    else if 'n' ≤ c && c ≤ 'y' then some (-3600 * (c.toNat - 109 : Nat))
    else none
  | _ => none

/-- A time of day with colons, and what follows it: letters for half a day, or a zone. -/
def timeOf? (s : List Char) : Option ((Nat × Nat × Nat × Nat) × Int) :=
  let isClock (c : Char) : Bool := c.isDigit || c = ':' || c = '.'
  let clock := s.takeWhile isClock
  let rest := s.drop clock.length
  let half := if "pm".toList.isPrefixOf rest then 12 else 0
  let isHalf := half = 12 || "am".toList.isPrefixOf rest
  let zone? := zoneOf? (if isHalf then rest.drop 2 else rest)
  let whole := clock.takeWhile (· ≠ '.')
  let fraction := fractionOf ((clock.drop whole.length).drop 1)
  let fields := (Text.pieces ':' whole).map numberOf?
  let hour (n : Nat) : Nat := if isHalf then n % 12 + half else n
  match zone?, fields with
  | some zone, [some h, some m] =>
    if h < 24 && m < 60 then some ((hour h, m, 0, 0), zone) else none
  | some zone, [some h, some m, some sec] =>
    if h < 24 && m < 60 && sec ≤ 60 then some ((hour h, m, sec, fraction), zone) else none
  | some zone, [some h] => if isHalf && h ≤ 12 then some ((hour h, 0, 0, 0), zone) else none
  | _, _ => none

/-- The year that two digits stand for. -/
def fullYear (digits : List Char) (n : Nat) : Int :=
  if digits.length ≤ 2 then if n < 69 then n + 2000 else n + 1900 else n

/-- A date, if there is such a day. -/
def validDate? (year : Int) (month day : Nat) : Option (Int × Nat × Nat) :=
  let date : Date := { year, month, day }
  if 1 ≤ month && month ≤ 12 && 1 ≤ day && dateOfDays date.days = date then
    some (year, month, day)
  else none

/-- A date of numbers. -/
def dateOf? (s : List Char) : Option (Int × Nat × Nat) :=
  match (Text.pieces '-' s).map fun piece => (piece, numberOf? piece) with
  | [(digits, some year), (_, some month), (_, some day)] =>
    validDate? (fullYear digits year) month day
  | _ =>
    match (Text.pieces '/' s).map fun piece => (piece, numberOf? piece) with
    | [(_, some month), (_, some day), (digits, some year)] =>
      validDate? (fullYear digits year) month day
    | _ =>
      match s.length, numberOf? s with
      | 8, some n => validDate? (n / 10000 : Nat) (n / 100 % 100) (n % 100)
      | _, _ => none

/-- Adds a number of units of time. -/
def Reading.add? (reading : Reading) (n : Int) (unit : List Char) : Option Reading :=
  let name := String.ofList (if 1 < unit.length && unit.getLast? = some 's' then unit.dropLast
    else unit)
  let reading := { reading with pending := none, isRelative := true }
  match name with
  | "second" | "sec" => some { reading with seconds := reading.seconds + n }
  | "minute" | "min" => some { reading with seconds := reading.seconds + n * 60 }
  | "hour" => some { reading with seconds := reading.seconds + n * 3600 }
  | "day" => some { reading with days := reading.days + n }
  | "week" => some { reading with days := reading.days + 7 * n }
  | "fortnight" => some { reading with days := reading.days + 14 * n }
  | "month" => some { reading with months := reading.months + n }
  | "year" => some { reading with months := reading.months + 12 * n }
  | _ => none

/-- Puts a number to its use when the word after it is no unit: it is a day, a year or a time. -/
def Reading.settle? (reading : Reading) : Option Reading :=
  match reading.pending with
  | none => some reading
  | some n =>
    let reading := { reading with pending := none }
    match reading.month, reading.date with
    | some month, none =>
      if 1 ≤ n && n ≤ 31 then some { reading with date := some (0, month, n.toNat) } else none
    | some _, some (0, month, day) => some { reading with date := some (n, month, day) }
    | _, _ =>
      if 0 ≤ n && n < 24 then some { reading with time := some (n.toNat, 0, 0, 0) }
      else if 100 ≤ n && n < 2400 && n % 100 < 60 then
        some { reading with time := some ((n / 100).toNat, (n % 100).toNat, 0, 0) }
      else none

/-- Takes the next word. -/
def Reading.take? (reading : Reading) (word : List Char) : Option Reading := do
  let sign := word.head?.getD ' '
  let digits := if sign = '+' || sign = '-' then word.drop 1 else word
  let name := String.ofList word
  match reading.pending, reading.add? (reading.pending.getD 1) word with
  | some _, some added => return added
  | pending, added? =>
    match pending, namePlace? monthNames word with
    | some day, some month =>
      if reading.date.isNone && 1 ≤ day && day ≤ 31 then
        return { reading with
          pending := none, month := some (month + 1), date := some (0, month + 1, day.toNat) }
    | _, _ => pure ()
    let reading ← reading.settle?
    match added? with
    | some added => return added
    | none => pure ()
    match name with
    | "utc" | "gmt" | "z" | "and" | "at" | "on" => return reading
    | "now" | "today" => return { reading with isRelative := true }
    | "tomorrow" => return { reading with days := reading.days + 1, isRelative := true }
    | "yesterday" => return { reading with days := reading.days - 1, isRelative := true }
    | "midnight" => return { reading with time := some (0, 0, 0, 0) }
    | "noon" => return { reading with time := some (12, 0, 0, 0) }
    | "next" => return { reading with pending := some 1 }
    | "last" => return { reading with pending := some (-1) }
    | "ago" =>
      return { reading with
        months := -reading.months, days := -reading.days, seconds := -reading.seconds }
    | _ => pure ()
    match numberOf? digits with
    | some n =>
      if digits.length < word.length || digits.length ≠ 8 then
        return { reading with pending := some (if sign = '-' then -(n : Int) else n) }
    | none => pure ()
    match dateOf? word, timeOf? word, namePlace? monthNames word, namePlace? weekdayNames word with
    | some date, _, _, _ => return { reading with date := some date }
    | none, some (time, zone), _, _ => return { reading with time := some time, zone }
    | none, none, some month, _ => return { reading with month := some (month + 1) }
    | none, none, none, some day => return { reading with weekday := some day }
    | none, none, none, none =>
      -- a number may be joined to its unit
      let front := digits.takeWhile Char.isDigit
      match numberOf? front with
      | some n =>
        let n : Int := if sign = '-' then -(n : Int) else n
        reading.add? n (digits.drop front.length)
      | none =>
        match zoneOf? word <|> letterZone? word with
        | some zone => return { reading with zone }
        | none => failure

/-- The point in time that words give, seen from another one. -/
def Reading.instant (reading : Reading) (now : Date) : Int × Nat :=
  let (year, month, day) := match reading.date with
    | some (0, month, day) => (now.year, month, day)
    | some date => date
    | none => (now.year, now.month, now.day)
  let isPlain := reading.isRelative && reading.date.isNone && reading.weekday.isNone
  let (hour, minute, second, fraction) := match reading.time with
    | some time => time
    | none =>
      if isPlain then (now.hour, now.minute, now.second, now.fraction) else (0, 0, 0, 0)
  let monthIndex := year * 12 + (month : Int) - 1 + reading.months
  let first : Date := { year := monthIndex / 12, month := (monthIndex % 12).toNat + 1, day := 1 }
  let start := first.days + (day : Int) - 1
  let start := match reading.weekday with
    | some wanted =>
      if reading.date.isSome then start
      else start + ((wanted + 7 - (dateOfDays start).weekday) % 7 : Nat)
    | none => start
  ((start + reading.days) * 86400 + hour * 3600 + minute * 60 + second + reading.seconds
    - reading.zone, fraction)

/-- The words of a text in small letters; the letter between a date and a time separates them. -/
def dateWords (s : List Char) : List (List Char) :=
  let small := s.map Char.toLower
  let rec spaced : List Char → List Char
    | a :: 't' :: b :: rest =>
      if a.isDigit && b.isDigit then a :: ' ' :: spaced (b :: rest)
      else a :: spaced ('t' :: b :: rest)
    | c :: rest => (if c = ',' || c = '\t' || c = '\n' then ' ' else c) :: spaced rest
    | [] => []
  (Text.pieces ' ' (spaced small)).filter fun word => !word.isEmpty

/-- Reads a point in time: its seconds and billionths. -/
def read? (now : Date) (s : List Char) : Option (Int × Nat) :=
  match dateWords s with
  | [] => some ((({ now with hour := 0, minute := 0, second := 0 } : Date)).seconds, 0)
  | ['@' :: word] =>
    let (negative, digits) := match word with
      | '-' :: digits => (true, digits)
      | digits => (false, digits)
    let whole := digits.takeWhile (· ≠ '.')
    let fraction := (digits.drop whole.length).drop 1
    if !fraction.all Char.isDigit then none
    else
      (numberOf? whole).map fun (n : Nat) =>
        let billionths := fractionOf fraction
        if !negative then ((n : Int), billionths)
        else if billionths = 0 then (-(n : Int), 0) else (-(n : Int) - 1, 1000000000 - billionths)
  | words =>
    match (words.foldlM Reading.take? ({} : Reading)).bind Reading.settle? with
    | some reading => some (reading.instant now)
    | none => none

/-- Reads digits for month, day, hour and minute, with the year in front and the seconds behind a
point if they are given. -/
def readDigits? (now : Date) (s : List Char) : Option Int := do
  let whole := s.takeWhile (· ≠ '.')
  let second ← if whole.length = s.length then pure 0 else numberOf? (s.drop (whole.length + 1))
  let front := whole.take (whole.length - 8)
  let n ← numberOf? (whole.drop front.length)
  let year ← if front.isEmpty then pure now.year else
    (numberOf? front).map fun n => fullYear front n
  let date : Date :=
    { year, month := n / 1000000, day := n / 10000 % 100, hour := n / 100 % 100
      minute := n % 100, second }
  if whole.length < 8 || date.month = 0 || 12 < date.month || date.day = 0 || 31 < date.day
      || 23 < date.hour || 59 < date.minute || 60 < second then failure
  else return date.seconds

end CheckedBuild.Text.Calendar
