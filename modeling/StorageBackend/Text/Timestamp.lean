import StorageBackend.Text.Basic

/-!
# Timestamps

Date and time of day with an offset from universal time, as in `2024-02-29T12:00:00.5+01:00`. Blank
space may stand in front of every number, a year with a sign may have any number of digits, and so
may a fraction. Every day from `Date.first` to `Date.last` can be represented.
-/

namespace StorageBackend.Text.Timestamp

/-- Reads one to `most` digits. -/
def digits (most : Nat) (text : List Char) : Option (Nat × List Char) :=
  let digits := (text.take most).takeWhile isDigit
  if digits.isEmpty then none
  else some (ofDigits 10 (digits.map digitValue), text.drop digits.length)

/-- Reads a number of one or two digits after blank space. -/
def number (text : List Char) : Option (Nat × List Char) := digits 2 (trimStart text)

/-- Reads a year after blank space: up to four digits, or a sign and any number of digits. -/
def year (text : List Char) : Option (Int × List Char) :=
  let text := trimStart text
  let unsigned (most : Nat) (text : List Char) : Option (Int × List Char) :=
    (digits most text).map fun (n, rest) => ((n : Int), rest)
  match text with
  | '-' :: rest => (unsigned rest.length rest).map fun (n, rest) => (-n, rest)
  | '+' :: rest => unsigned rest.length rest
  | _ => unsigned 4 text

/-- Reads a character after blank space. -/
def mark (c : Char) (text : List Char) : Option (List Char) :=
  match trimStart text with
  | d :: rest => if d = c then some rest else none
  | [] => none

/-! ## Dates -/

/-- A day of the calendar. Year zero is the one before the year one. -/
structure Date where
  year : Int
  month : Nat
  day : Nat
deriving DecidableEq

/-- Whether a year has a 29th of February. -/
def isLeapYear (year : Int) : Bool := year % 4 == 0 && (year % 100 != 0 || year % 400 == 0)

/-- The days of a month; none if there is no such month. -/
def daysIn (year : Int) (month : Nat) : Nat :=
  if month = 2 then if isLeapYear year then 29 else 28
  else if [4, 6, 9, 11].contains month then 30
  else if 1 ≤ month ∧ month ≤ 12 then 31
  else 0

namespace Date

/-- The first day that can be represented. -/
def first : Date := ⟨-262143, 1, 1⟩

/-- The last day that can be represented. -/
def last : Date := ⟨262142, 12, 31⟩

/-- Whether there is such a day, and it can be represented. -/
def isValid (date : Date) : Bool :=
  first.year ≤ date.year && date.year ≤ last.year && 1 ≤ date.day &&
    date.day ≤ daysIn date.year date.month

/-- The number of days from the first day of the year zero. -/
def number (date : Date) : Int :=
  let leapYears : Int := (date.year + 3) / 4 - (date.year + 99) / 100 + (date.year + 399) / 400
  let daysBefore : Nat :=
    (List.range (date.month - 1)).foldl (fun days month => days + daysIn date.year (month + 1)) 0
  365 * date.year + leapYears + daysBefore + date.day - 1

end Date

/-- Reads a date. -/
def date (text : List Char) : Option (Date × List Char) := do
  let (year, text) ← year text
  let (month, text) ← number (← mark '-' text)
  let (day, text) ← number (← mark '-' text)
  if (Date.mk year month day).isValid then some (⟨year, month, day⟩, text) else none

/-! ## Times of day -/

/-- Reads the fraction of a second, if there is one. -/
def fraction (text : List Char) : Option (List Char) :=
  match text with
  | '.' :: rest =>
    if (rest.takeWhile isDigit).isEmpty then none else some (rest.dropWhile isDigit)
  | _ => some text

/-- Reads a time of day as seconds since midnight. A minute may have a second too many, which counts
as its last one. -/
def time (text : List Char) : Option (Nat × List Char) := do
  let (hour, text) ← number text
  let (minute, text) ← number (← mark ':' text)
  let (second, text) ← number (← mark ':' text)
  if hour < 24 ∧ minute < 60 ∧ second ≤ 60 then
    some (hour * 3600 + minute * 60 + min second 59, ← fraction text)
  else none

/-! ## Offsets from universal time -/

/-- Reads two digits. -/
def twoDigits (text : List Char) : Option (Nat × List Char) :=
  match text with
  | a :: b :: rest =>
    if isDigit a && isDigit b then some (digitValue a * 10 + digitValue b, rest) else none
  | _ => none

/-- Whether an offset is negative: it begins with a plus sign, a hyphen or a minus sign. -/
def isNegativeSign? (c : Char) : Option Bool :=
  if c = '+' then some false else if c = '-' ∨ c = '\u2212' then some true else none

/-- Reads an offset, in seconds: hours and minutes of two digits each, with colons and blank space
between them, or the letter for no offset. -/
def offset (text : List Char) : Option (Int × List Char) :=
  match text with
  | [] => none
  | c :: rest =>
    if c = 'Z' ∨ c = 'z' then some (0, rest)
    else do
      let negative ← isNegativeSign? c
      let (hours, rest) ← twoDigits rest
      let (minutes, rest) ← twoDigits (rest.dropWhile fun c => c == ':' || isBlank c)
      if hours < 24 ∧ minutes < 60 then
        let seconds : Int := hours * 3600 + minutes * 60
        some (if negative then -seconds else seconds, rest)
      else none

/-- Reads a zone: an offset, or the name of universal time. -/
def zone (text : List Char) : Option (Int × List Char) :=
  if (text.take 3).map Char.toUpper = ['U', 'T', 'C'] then some (0, text.drop 3) else offset text

/-! ## Timestamps -/

/-- The seconds of a day. -/
def perDay : Int := 86400

/-- The day on which time begins. -/
def epoch : Date := ⟨1970, 1, 1⟩

/-- The beginning of a day in universal time, in seconds since the beginning of `epoch`. -/
def Date.seconds (date : Date) : Int := (date.number - epoch.number) * perDay

/-- Reads a timestamp as seconds since the beginning of `epoch`. The day has to be representable in
universal time as well. -/
def parse? (text : String) : Option Int := do
  let (date, text) ← date text.toList
  match text with
  | separator :: rest =>
    if ['T', 't', ' '].contains separator then
      let (time, rest) ← time rest
      let (offset, rest) ← zone (trimStart rest)
      let moment := date.seconds + time - offset
      let isRepresentable :=
        Date.first.seconds ≤ moment && moment < Date.last.seconds + perDay
      if (trimStart rest).isEmpty && isRepresentable then some moment else none
    else none
  | [] => none

/-- Whether a text is a timestamp. -/
def isTimestamp (text : String) : Bool := (parse? text).isSome

end StorageBackend.Text.Timestamp
