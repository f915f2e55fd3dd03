/-!
# Timestamps

Dates, times and both together, with or without an offset, as in RFC 3339. Reading accepts small
letters, a blank between date and time and any number of digits behind the second; writing has
one form. Of the digits behind the second nine count.
-/

namespace BuildSettings

/-- A day of the calendar. -/
structure Date where
  year : Nat
  month : Nat
  day : Nat
deriving DecidableEq, Repr

/-- A time of the day. -/
structure Time where
  hour : Nat
  minute : Nat
  second : Nat
  nanosecond : Nat
deriving DecidableEq, Repr

/-- The offset of a time from universal time. -/
inductive Offset where
  | zulu
  | minutes (value : Int)
deriving DecidableEq, Repr

/-- A date, a time or both. -/
structure Timestamp where
  date : Option Date
  time : Option Time
  offset : Option Offset
deriving DecidableEq, Repr

namespace Timestamp

/-- The number that decimal digits make. -/
def decimal (cs : List Char) : Nat :=
  cs.foldl (fun n c => n * 10 + (c.toNat - 48)) 0

/-- Reads a number of exactly `count` digits between two bounds. -/
def field? (count low high : Nat) (cs : List Char) : Option (Nat × List Char) :=
  let digits := cs.take count
  if digits.length = count ∧ digits.all Char.isDigit ∧
      low ≤ decimal digits ∧ decimal digits ≤ high then
    some (decimal digits, cs.drop count)
  else none

/-- Reads one character. -/
def char? (c : Char) : List Char → Option (List Char)
  | [] => none
  | d :: cs => if d = c then some cs else none

/-- Whether a year has a leap day. -/
def isLeap (year : Nat) : Bool :=
  year % 4 == 0 && (year % 100 != 0 || year % 400 == 0)

/-- The number of days of a month. -/
def daysIn (year month : Nat) : Nat :=
  if month = 2 then (if isLeap year then 29 else 28)
  else if month = 4 ∨ month = 6 ∨ month = 9 ∨ month = 11 then 30
  else 31

/-- Reads a date. -/
def date? (cs : List Char) : Option (Date × List Char) := do
  let (year, cs) ← field? 4 0 9999 cs
  let cs ← char? '-' cs
  let (month, cs) ← field? 2 1 12 cs
  let cs ← char? '-' cs
  let (day, cs) ← field? 2 1 (daysIn year month) cs
  return (⟨year, month, day⟩, cs)

/-- Reads the digits behind a second, if there are any, as nanoseconds. -/
def fraction? (cs : List Char) : Option (Nat × List Char) :=
  match cs with
  | '.' :: rest =>
    let digits := rest.takeWhile Char.isDigit
    if digits.isEmpty then none
    else some (decimal ((digits ++ List.replicate 9 '0').take 9), rest.dropWhile Char.isDigit)
  | cs => some (0, cs)

/-- Reads a time. -/
def time? (cs : List Char) : Option (Time × List Char) := do
  let (hour, cs) ← field? 2 0 23 cs
  let cs ← char? ':' cs
  let (minute, cs) ← field? 2 0 59 cs
  let cs ← char? ':' cs
  let (second, cs) ← field? 2 0 60 cs
  let (nanosecond, cs) ← fraction? cs
  return (⟨hour, minute, second, nanosecond⟩, cs)

/-- Reads hours and minutes behind a sign. -/
def signed? (sign : Int) (cs : List Char) : Option (Offset × List Char) := do
  let (hours, cs) ← field? 2 0 23 cs
  let cs ← char? ':' cs
  let (minutes, cs) ← field? 2 0 59 cs
  return (.minutes (sign * (hours * 60 + minutes)), cs)

/-- Reads an offset, if there is one. -/
def offset? (cs : List Char) : Option (Option Offset × List Char) :=
  match cs with
  | 'Z' :: cs => some (some .zulu, cs)
  | 'z' :: cs => some (some .zulu, cs)
  | '+' :: cs => (signed? 1 cs).map fun (o, cs) => (some o, cs)
  | '-' :: cs => (signed? (-1) cs).map fun (o, cs) => (some o, cs)
  | cs => some (none, cs)

/-- Whether the character stands between a date and a time. -/
def isDelimiter (c : Char) : Bool :=
  c == 'T' || c == 't' || c == ' '

/-- Reads a timestamp at the start of a text. A date followed by a blank and no time is a date
alone. -/
def read? (cs : List Char) : Option (Timestamp × List Char) :=
  match date? cs with
  | some (date, rest) =>
    match rest with
    | [] => some (⟨some date, none, none⟩, [])
    | c :: more =>
      match if isDelimiter c then time? more else none with
      | some (time, behind) =>
        (offset? behind).map fun (offset, behind) => (⟨some date, some time, offset⟩, behind)
      | none => some (⟨some date, none, none⟩, rest)
  | none => (time? cs).map fun (time, rest) => (⟨none, some time, none⟩, rest)

/-- The timestamp that is a whole text. -/
def ofText? (s : String) : Option Timestamp :=
  (read? s.toList).bind fun (t, rest) => if rest.isEmpty then some t else none

/-- A number with at least `width` digits. -/
def padded (width n : Nat) : List Char :=
  let digits := Nat.toDigits 10 n
  List.replicate (width - digits.length) '0' ++ digits

/-- The text of a date. -/
def dateChars (d : Date) : List Char :=
  padded 4 d.year ++ '-' :: padded 2 d.month ++ '-' :: padded 2 d.day

/-- The text of a time; zeros at the end of the fraction are left out. -/
def timeChars (t : Time) : List Char :=
  padded 2 t.hour ++ ':' :: padded 2 t.minute ++ ':' :: padded 2 t.second ++
    if t.nanosecond = 0 then []
    else '.' :: ((padded 9 t.nanosecond).reverse.dropWhile (· == '0')).reverse

/-- The text of an offset. -/
def offsetChars : Offset → List Char
  | .zulu => ['Z']
  | .minutes value =>
    (if value < 0 then '-' else '+') :: padded 2 (value.natAbs / 60) ++
      ':' :: padded 2 (value.natAbs % 60)

/-- The text of a timestamp. -/
def toText (t : Timestamp) : String :=
  String.ofList <|
    (t.date.map dateChars).getD [] ++
    (if t.date.isSome && t.time.isSome then ['T'] else []) ++
    (t.time.map timeChars).getD [] ++ (t.offset.map offsetChars).getD []

end Timestamp

end BuildSettings
