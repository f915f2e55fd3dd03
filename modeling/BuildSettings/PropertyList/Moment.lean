import BuildSettings.Timestamp

/-!
# Moments

A date and a time of the day with the distance from universal time, as RFC 3339 writes them. A
moment is kept in universal time. Any one character may stand between the date and the time, and
the second 60 is taken for the last nanosecond of its minute; it occurs only at the end of a
month.
-/

namespace BuildSettings

namespace Date

/-- The day behind a day. -/
def next (d : Date) : Date :=
  if d.day < Timestamp.daysIn d.year d.month then { d with day := d.day + 1 }
  else if d.month < 12 then { d with month := d.month + 1, day := 1 }
  else ⟨d.year + 1, 1, 1⟩

/-- The day before a day, from the year zero on. -/
def previous? (d : Date) : Option Date :=
  if 1 < d.day then some { d with day := d.day - 1 }
  else if 1 < d.month then
    some { d with month := d.month - 1, day := Timestamp.daysIn d.year (d.month - 1) }
  else if 0 < d.year then some ⟨d.year - 1, 12, 31⟩
  else none

/-- The day some days later or earlier. -/
def shift? : Int → Date → Option Date
  | .ofNat n, d => some (Nat.repeat next n d)
  | .negSucc n, d => Nat.repeat (·.bind previous?) (n + 1) (some d)

/-- Whether a day is the last of its month. -/
def isMonthEnd (d : Date) : Bool :=
  d.day == Timestamp.daysIn d.year d.month

end Date

namespace Timestamp

/-- Reads the distance from universal time in minutes. -/
def distance? (cs : List Char) : Option Int :=
  let signed := fun (sign : Int) (cs : List Char) => do
    let (hours, cs) ← field? 2 0 25 cs
    let cs ← char? ':' cs
    let (minutes, cs) ← field? 2 0 59 cs
    if cs.isEmpty then some (sign * (hours * 60 + minutes)) else none
  match cs with
  | ['Z'] => some 0
  | ['z'] => some 0
  | '+' :: cs => signed 1 cs
  | '-' :: cs => signed (-1) cs
  | _ => none

/-- The moment in universal time, when a clock with this distance from it shows a date and a time.
Years have four digits. -/
def universal? (date : Date) (time : Time) (distance : Int) : Option (Date × Time) := do
  let minutes : Int := time.hour * 60 + time.minute - distance
  let date ← date.shift? (minutes / 1440)
  let minute := (minutes % 1440).toNat
  if date.year ≤ 9999 then
    some (date, { time with hour := minute / 60, minute := minute % 60 })
  else none

/-- The moment a text tells, in universal time. -/
def moment? (cs : List Char) : Option Timestamp := do
  let (date, cs) ← date? cs
  let cs ← match cs with
    | c :: cs => if c.toNat < 128 then some cs else none
    | [] => none
  let (time, cs) ← time? cs
  let distance ← distance? cs
  let leap := time.second == 60
  let time := if leap then { time with second := 59, nanosecond := 999999999 } else time
  let (date, time) ← universal? date time distance
  if leap ∧ !(time.hour == 23 && time.minute == 59 && date.isMonthEnd) then none
  else some ⟨some date, some time, some .zulu⟩

end Timestamp

end BuildSettings
