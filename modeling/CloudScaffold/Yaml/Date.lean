import CloudScaffold.Yaml.Tag
/-!
# Dates and times

A date of the Gregorian calendar, and a time with microseconds and perhaps an offset from universal
time. Both have a text and a literal form that names the parts.
-/
namespace CloudScaffold.Yaml

open Number

structure Date where
  year : Nat
  month : Nat
  day : Nat
  deriving DecidableEq, Repr

/-- A time of day on a date; the offset is in seconds. -/
structure Time where
  date : Date
  hour : Nat
  minute : Nat
  second : Nat
  micro : Nat := 0
  offset : Option Int := none
  deriving DecidableEq, Repr

def isLeapYear (y : Nat) : Bool := y % 4 == 0 && (y % 100 != 0 || y % 400 == 0)

def daysInMonth (year month : Nat) : Nat :=
  match month with
  | 2 => if isLeapYear year then 29 else 28
  | 4 | 6 | 9 | 11 => 30
  | _ => 31

/-- The days before a year, counted from the start of year one. -/
def daysBeforeYear (y : Nat) : Nat := (y - 1) * 365 + (y - 1) / 4 - (y - 1) / 100 + (y - 1) / 400

/-- The days of the first months of a year. -/
def daysOfMonths (year : Nat) : Nat → Nat
  | 0 => 0
  | m + 1 => daysOfMonths year m + daysInMonth year (m + 1)

/-- The number of a day, counted from the start of year one. -/
def Date.ordinal (d : Date) : Nat :=
  daysBeforeYear d.year + daysOfMonths d.year (d.month - 1) + d.day

/-- The microseconds from the start of year one to a time, as its own clock shows it. -/
def Time.clock (t : Time) : Int :=
  ((t.date.ordinal * 86400 + t.hour * 3600 + t.minute * 60 + t.second) * 1000000 + t.micro : Nat)

/-- Whether two times are the same: with offsets, if they are the same instant; without, if their
clocks show the same. A time with an offset is never one without. -/
def Time.isSame (s t : Time) : Bool :=
  match s.offset, t.offset with
  | some a, some b => s.clock - a * 1000000 == t.clock - b * 1000000
  | none, none => s.clock == t.clock
  | _, _ => false

/-- A date, if there is such a day. -/
def Date.make (year month day : Nat) : Except DateFault Date :=
  if year = 0 then .error .year
  else if month = 0 || 12 < month then .error .month
  else if day = 0 || daysInMonth year month < day then .error .day
  else .ok ⟨year, month, day⟩

/-- The number that digits write. -/
def digitsValue (cs : Chars) : Nat := cs.foldl (fun n c => 10 * n + (c.toNat - 48)) 0

/-- The microseconds of a fraction, further digits cut off. -/
def microsOf (fraction : Chars) : Nat := digitsValue ((fraction ++ List.replicate 6 '0').take 6)

/-- An offset in seconds, of less than a day. -/
def offsetOf (sign : Char) (hours minutes : Chars) : Except DateFault Int :=
  let seconds : Int := 3600 * digitsValue hours + 60 * digitsValue minutes
  let signed := if sign = '-' then -seconds else seconds
  if 86400 ≤ seconds then .error (.offset signed) else .ok signed

/-- The offset of a stamp. -/
def Stamp.offsetSeconds (s : Stamp) : Except DateFault (Option Int) :=
  match s.offset with
  | none => .ok none
  | some none => .ok (some 0)
  | some (some (sign, hours, minutes)) => (offsetOf sign hours minutes).map some

/-- The date or the time of a stamp; the first part that is out of range counts. -/
def Stamp.value (s : Stamp) : Except DateFault (Date ⊕ Time) := do
  match s.clock with
  | none => .ok (.inl (← Date.make (digitsValue s.year) (digitsValue s.month) (digitsValue s.day)))
  | some (hour, minute, second) =>
    let offset ← s.offsetSeconds
    let date ← Date.make (digitsValue s.year) (digitsValue s.month) (digitsValue s.day)
    let (h, m, sec) := (digitsValue hour, digitsValue minute, digitsValue second)
    if 23 < h then throw .hour
    if 59 < m then throw .minute
    if 59 < sec then throw .second
    .ok (.inr { date := date, hour := h, minute := m, second := sec
                micro := microsOf s.fraction, offset := offset })

/-- A number in at least some digits. -/
def padded (width n : Nat) : String :=
  let ds := Nat.toDigits 10 n
  .ofList (List.replicate (width - ds.length) '0' ++ ds)

def Date.text (d : Date) : String :=
  "-".intercalate [padded 4 d.year, padded 2 d.month, padded 2 d.day]

/-- An offset in hours and minutes. -/
def offsetText (seconds : Int) : String :=
  let minutes := seconds.natAbs / 60
  (if seconds < 0 then "-" else "+") ++ padded 2 (minutes / 60) ++ ":" ++ padded 2 (minutes % 60)

def Time.text (t : Time) : String :=
  t.date.text ++ " " ++ ":".intercalate [padded 2 t.hour, padded 2 t.minute, padded 2 t.second]
    ++ (if t.micro = 0 then "" else "." ++ padded 6 t.micro)
    ++ (t.offset.map offsetText).getD ""

def listText (ns : List Nat) : List String := ns.map fun (n : Nat) => showInt n

/-- A call of a name on parts. -/
def callText (name : String) (parts : List String) : String :=
  name ++ "(" ++ ", ".intercalate parts ++ ")"

def Date.literal (d : Date) : String :=
  callText "datetime.date" (listText [d.year, d.month, d.day])

def offsetLiteral (seconds : Int) : String :=
  if seconds = 0 then "datetime.timezone.utc"
  else callText "datetime.timezone" [intervalText seconds]

/-- The parts of a time, without zeros at the end beyond the minute. -/
def Time.parts (t : Time) : List Nat :=
  [t.date.year, t.date.month, t.date.day, t.hour, t.minute]
    ++ (if t.micro ≠ 0 then [t.second, t.micro] else if t.second ≠ 0 then [t.second] else [])

def Time.literal (t : Time) : String :=
  callText "datetime.datetime" (listText t.parts
    ++ ((t.offset.map fun o => "tzinfo" ++ "=" ++ offsetLiteral o).toList))

end CloudScaffold.Yaml
