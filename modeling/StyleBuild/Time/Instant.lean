import StyleBuild.Text.Blank
import StyleBuild.Text.Digits

/-!
# Instants

An instant is a date and a time of that day in universal time. It is written as in
`2024-01-02T03:04:05.678Z`, with as many groups of three digits behind the point as it needs. It is
read more freely: numbers need no leading zeros, there may be white space between the parts, and a
time may be given at an offset.

The days of the Gregorian calendar, carried on before its start. The years are bounded, so the
first date has no day before it and the last one none after it.
-/

namespace StyleBuild

/-! ## Dates -/

namespace Date

/-- The first year. -/
def firstYear : Int := -262143

/-- The last year. -/
def lastYear : Int := 262142

/-- Whether a year has 366 days. -/
def isLeap (year : Int) : Bool := year % 4 = 0 && (year % 100 ≠ 0 || year % 400 = 0)

/-- The number of days of a month. -/
def daysIn (year : Int) (month : Nat) : Nat :=
  if month = 2 then (if isLeap year then 29 else 28)
  else if month = 4 ∨ month = 6 ∨ month = 9 ∨ month = 11 then 30
  else 31

/-- Whether a year, a month and a day make a date. -/
def isDate (year : Int) (month day : Nat) : Bool :=
  firstYear ≤ year && year ≤ lastYear && 1 ≤ month && month ≤ 12 && 1 ≤ day &&
    day ≤ daysIn year month

end Date

/-- A day of the calendar. -/
structure Date where
  year : Int
  month : Nat
  day : Nat
  valid : Date.isDate year month day := by decide
  deriving DecidableEq, Repr

namespace Date

instance : Inhabited Date := ⟨{ year := 1970, month := 1, day := 1 }⟩

/-- The date of a year, a month and a day, if they make one. -/
def of? (year : Int) (month day : Nat) : Option Date :=
  if h : isDate year month day then some ⟨year, month, day, h⟩ else none

@[simp] theorem of?_self (d : Date) : of? d.year d.month d.day = some d := by
  simp [of?, d.valid]

/-- The day after. -/
def next? (d : Date) : Option Date :=
  if d.day < daysIn d.year d.month then of? d.year d.month (d.day + 1)
  else if d.month < 12 then of? d.year (d.month + 1) 1
  else of? (d.year + 1) 1 1

/-- The day before. -/
def previous? (d : Date) : Option Date :=
  if 1 < d.day then of? d.year d.month (d.day - 1)
  else if 1 < d.month then of? d.year (d.month - 1) (daysIn d.year (d.month - 1))
  else of? (d.year - 1) 12 31

end Date

/-! ## Instants -/

/-- A date and a time of the day. A leap second goes on counting nanoseconds in the last second of
its minute. -/
structure Instant where
  date : Date
  second : Nat := 0
  nano : Nat := 0
  second_lt : second < 86400 := by decide
  nano_lt : nano < 1000000000 ∨ (second % 60 = 59 ∧ nano < 2000000000) := by decide
  deriving DecidableEq, Repr

namespace Instant

instance : Inhabited Instant := ⟨{ date := default }⟩

/-! ### Writing -/

/-- A year: four digits, or a sign and at least four digits. -/
def yearText (year : Int) : String :=
  if 0 ≤ year ∧ year ≤ 9999 then decimalPadded 4 year.natAbs
  else (if year < 0 then "-" else "+") ++ decimalPadded 4 year.natAbs

/-- What stands behind the seconds for a number of nanoseconds. -/
def fractionText (nano : Nat) : String :=
  if nano = 0 then ""
  else if nano % 1000000 = 0 then "." ++ decimalPadded 3 (nano / 1000000)
  else if nano % 1000 = 0 then "." ++ decimalPadded 6 (nano / 1000)
  else "." ++ decimalPadded 9 nano

/-- The text of an instant. -/
def text (t : Instant) : String :=
  let leap := if t.nano < 1000000000 then 0 else 1
  yearText t.date.year ++ "-" ++ decimalPadded 2 t.date.month ++ "-" ++
    decimalPadded 2 t.date.day ++ "T" ++ decimalPadded 2 (t.second / 3600) ++ ":" ++
    decimalPadded 2 (t.second / 60 % 60) ++ ":" ++ decimalPadded 2 (t.second % 60 + leap) ++
    fractionText (t.nano - leap * 1000000000) ++ "Z"

/-! ### Reading -/

/-- Why a text is no instant. -/
inductive Fault where
  | outOfRange
  | impossible
  | invalid
  | tooShort
  | tooLong
  deriving DecidableEq, Repr, Inhabited

/-- The fault in words. -/
def Fault.message : Fault → String
  | .outOfRange => "input is out of range"
  | .impossible => "no possible date and time matching input"
  | .invalid => "input contains invalid characters"
  | .tooShort => "premature end of input"
  | .tooLong => "trailing input"

/-- Read a numeral of one digit or more, and of at most `width` digits. What is read comes with the
rest of the text, here and below. -/
def readNumeral (width : Nat) (cs : List Char) : Except Fault (Nat × List Char) :=
  match (cs.take width).takeWhile Char.isDigit, cs with
  | [], [] => .error .tooShort
  | [], _ => .error .invalid
  | ds, cs => .ok (valueOfDigits 10 ds, cs.drop ds.length)

/-- Read a numeral of two digits or fewer behind white space, between two bounds. -/
def readPart (low high : Nat) (cs : List Char) : Except Fault (Nat × List Char) := do
  let (n, rest) ← readNumeral 2 (cs.dropWhile isBlank)
  if low ≤ n ∧ n ≤ high then return (n, rest) else throw .outOfRange

/-- A year that has 32 bits. -/
def checkYear (year : Int) (rest : List Char) : Except Fault (Int × List Char) :=
  if -2147483648 ≤ year ∧ year ≤ 2147483647 then .ok (year, rest) else .error .outOfRange

/-- Read a year: four digits or fewer, or a sign and any number of digits. -/
def readYear (cs : List Char) : Except Fault (Int × List Char) :=
  match cs.dropWhile isBlank with
  | '-' :: cs => readNumeral cs.length.succ cs >>= fun (n, rest) => checkYear (-n) rest
  | '+' :: cs => readNumeral cs.length.succ cs >>= fun (n, rest) => checkYear n rest
  | cs => readNumeral 4 cs >>= fun (n, rest) => checkYear n rest

/-- Read a mark, which white space may stand before. -/
def readMark (mark : Char) (cs : List Char) : Except Fault (List Char) :=
  match cs.dropWhile isBlank with
  | [] => .error .tooShort
  | c :: rest => if c = mark then .ok rest else .error .invalid

/-- Read what stands between date and time. -/
def readBetween : List Char → Except Fault (List Char)
  | [] => .error .tooShort
  | c :: rest => if c = 'T' ∨ c = 't' ∨ c = ' ' then .ok rest else .error .invalid

/-- Read the digits behind a point as nanoseconds. Digits behind the ninth do not count. -/
def readFraction : List Char → Except Fault (Nat × List Char)
  | '.' :: cs => do
    let (n, rest) ← readNumeral 9 cs
    return (n * Nat.pow 10 (9 - (cs.length - rest.length)), rest.dropWhile Char.isDigit)
  | cs => .ok (0, cs)

/-- Read two digits, the first of which is at most `most`. -/
def readPair (most : Char) : List Char → Except Fault (Nat × List Char)
  | a :: b :: rest =>
    if a.isDigit && b.isDigit then
      if a ≤ most then .ok (valueOfDigits 10 [a, b], rest) else .error .outOfRange
    else .error .invalid
  | [a] => .error (if a.utf8Size = 1 then .tooShort else .invalid)
  | [] => .error .tooShort

/-- Read hours and minutes as minutes; colons and white space may separate them. -/
def readShift (cs : List Char) : Except Fault (Int × List Char) := do
  let (hours, rest) ← readPair '9' cs
  let (minutes, rest) ← readPair '5' (rest.dropWhile fun c => c == ':' || isBlank c)
  return (hours * 60 + minutes, rest)

/-- Read the offset from universal time in minutes. -/
def readOffset : List Char → Except Fault (Int × List Char)
  | [] => .error .tooShort
  | c :: rest =>
    if c = 'Z' ∨ c = 'z' then .ok (0, rest)
    else if c = '+' then readShift rest
    else if c = '-' ∨ c = '\u2212' then (readShift rest).map fun (n, rest) => (-n, rest)
    else match c.toUpper :: (rest.take 2).map Char.toUpper with
      | ['U', 'T', 'C'] => .ok (0, rest.drop 2)
      | _ => .error .invalid

/-- The instant of a local date and time at an offset in minutes. -/
def ofLocal (date : Date) (second nano : Nat) (offset : Int) : Except Fault Instant :=
  let universal : Int := second - offset * 60
  let date? :=
    if universal < 0 then date.previous? else if 86400 ≤ universal then date.next? else some date
  match date? with
  | none => .error .impossible
  | some date =>
    let second := (universal % 86400).toNat
    if h : second < 86400 ∧ (nano < 1000000000 ∨ (second % 60 = 59 ∧ nano < 2000000000)) then
      .ok ⟨date, second, nano, h.1, h.2⟩
    else .error .outOfRange

/-- The number of minutes of a day. -/
def minutesOfDay : Int := 1440

/-- Read an instant. What does not fit together is found only after the text has been read. -/
def read (text : String) : Except Fault Instant := do
  let (year, rest) ← readYear text.toList
  let (month, rest) ← readPart 1 12 (← readMark '-' rest)
  let (day, rest) ← readPart 1 31 (← readMark '-' rest)
  let (hour, rest) ← readPart 0 23 (← readBetween rest)
  let (minute, rest) ← readPart 0 59 (← readMark ':' rest)
  let (second, rest) ← readPart 0 60 (← readMark ':' rest)
  let (nano, rest) ← readFraction rest
  let (offset, rest) ← readOffset (rest.dropWhile isBlank)
  if rest.any fun c => !isBlank c then throw .tooLong
  match Date.of? year month day with
  | none => throw .outOfRange
  | some date =>
    if minutesOfDay ≤ offset ∨ offset ≤ -minutesOfDay then throw .outOfRange
    let leap := second / 60
    ofLocal date (hour * 3600 + minute * 60 + (second - leap)) (nano + leap * 1000000000) offset

end Instant

end StyleBuild
