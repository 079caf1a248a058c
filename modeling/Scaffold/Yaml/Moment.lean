import Scaffold.Json.Reader

/-!
# Dates and times

A date is written with dashes; a time of day may follow it, with a fraction of a second and the
distance to universal time.
-/

namespace Scaffold.Yaml

/-- The distance to universal time, in minutes. -/
structure Zone where
  behind : Bool
  minutes : Nat
  deriving DecidableEq, Repr

/-- A time of day. -/
structure DayTime where
  hour : Nat
  minute : Nat
  second : Nat
  micros : Nat
  zone : Option Zone
  deriving DecidableEq, Repr

/-- A date, perhaps with a time of day. -/
structure Moment where
  year : Nat
  month : Nat
  day : Nat
  time : Option DayTime := none
  deriving DecidableEq, Repr

namespace Moment

/-- A number of at least and at most so many digits, and what follows it. -/
def digits? (least most : Nat) (text : Chars) : Option (Nat × Chars) :=
  let run := (text.take most).takeWhile Text.isAsciiDigit
  if run.length < least then none else some (Json.digitsValue run, text.drop run.length)

/-- The text behind a character. -/
def behind? (c : Char) : Chars → Option Chars
  | d :: rest => if c == d then some rest else none
  | [] => none

/-- A blank between the parts of a moment. -/
def isGap (c : Char) : Bool :=
  c == ' ' || c == '\t'

/-- The fraction of a second in millionths, and what follows it. -/
def fraction (text : Chars) : Nat × Chars :=
  match text with
  | '.' :: rest =>
    let run := rest.takeWhile Text.isAsciiDigit
    let six := run.take 6
    (Json.digitsValue (six ++ List.replicate (6 - six.length) '0'), rest.drop run.length)
  | _ => (0, text)

/-- The distance to universal time that ends a moment; the outer value is missing where something
else stands there. -/
def zone? (text : Chars) : Option (Option Zone) :=
  match text.dropWhile isGap with
  | [] => if text.isEmpty then some none else none
  | ['Z'] => some (some ⟨false, 0⟩)
  | sign :: rest => do
    let (hours, rest) ← if sign == '+' || sign == '-' then digits? 1 2 rest else none
    let minutes ← match rest with
      | [] => some 0
      | ':' :: rest => (digits? 2 2 rest).bind fun (minutes, rest) =>
        if rest.isEmpty then some minutes else none
      | _ => none
    return some ⟨sign == '-', hours * 60 + minutes⟩

/-- The time of day behind a date. -/
def time? (text : Chars) : Option DayTime := do
  let text ← match text with
    | 'T' :: rest => some rest
    | 't' :: rest => some rest
    | c :: rest => if isGap c then some (rest.dropWhile isGap) else none
    | [] => none
  let (hour, text) ← digits? 1 2 text
  let (minute, text) ← digits? 2 2 (← behind? ':' text)
  let (second, text) ← digits? 2 2 (← behind? ':' text)
  let (micros, text) := fraction text
  return { hour, minute, second, micros, zone := ← zone? text }

/-- The moment that a text is written like. A date without a time has all its zeros. -/
def ofText? (text : Chars) : Option Moment := do
  let (year, text) ← digits? 4 4 text
  let (month, afterMonth) ← digits? 1 2 (← behind? '-' text)
  let (day, rest) ← digits? 1 2 (← behind? '-' afterMonth)
  if rest.isEmpty then
    if text.length = 6 then return { year, month, day } else none
  else return { year, month, day, time := some (← time? rest) }

/-- The number of days in a month. -/
def daysIn (year month : Nat) : Nat :=
  let leap := year % 4 = 0 && (year % 100 != 0 || year % 400 = 0)
  if month = 2 then (if leap then 29 else 28)
  else if [4, 6, 9, 11].contains month then 30
  else 31

/-- The calendar has the moment. -/
def isValid (moment : Moment) : Bool :=
  1 ≤ moment.year && 1 ≤ moment.month && moment.month ≤ 12 && 1 ≤ moment.day &&
    moment.day ≤ daysIn moment.year moment.month &&
    moment.time.all fun time =>
      time.hour < 24 && time.minute < 60 && time.second < 60 &&
        time.zone.all fun zone => zone.minutes < 24 * 60

/-- A distance to universal time as it is shown. -/
def showZone (zone : Zone) : String :=
  if zone.minutes = 0 then "datetime.timezone.utc"
  else
    let seconds := zone.minutes * 60
    let shown :=
      if zone.behind then "days=-1, seconds=" ++ toString (86400 - seconds)
      else "seconds=" ++ toString seconds
    "datetime.timezone(datetime.timedelta(" ++ shown ++ "))"

/-- A moment as it is shown. -/
def render (moment : Moment) : String :=
  let join (numbers : List Nat) := ", ".intercalate (numbers.map toString)
  let date := [moment.year, moment.month, moment.day]
  match moment.time with
  | none => "datetime.date(" ++ join date ++ ")"
  | some time =>
    let seconds :=
      if time.micros != 0 then [time.second, time.micros]
      else if time.second != 0 then [time.second]
      else []
    "datetime.datetime(" ++ join (date ++ [time.hour, time.minute] ++ seconds) ++
      (time.zone.elim "" fun zone => ", tzinfo=" ++ showZone zone) ++ ")"

end Moment

end Scaffold.Yaml
