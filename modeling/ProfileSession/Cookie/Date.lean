import ProfileSession.Text.Split

namespace ProfileSession.Cookie

def months : List String :=
  ["Jan", "Feb", "Mar", "Apr", "May", "Jun", "Jul", "Aug", "Sep", "Oct", "Nov", "Dec"]

def shortDays : List String := ["Mon", "Tue", "Wed", "Thu", "Fri", "Sat", "Sun"]

def longDays : List String :=
  ["Monday", "Tuesday", "Wednesday", "Thursday", "Friday", "Saturday", "Sunday"]

structure Moment where
  year : Nat
  month : Nat
  day : Nat
  hour : Nat
  minute : Nat
  second : Nat
deriving DecidableEq, Repr

-- Years of two digits are those from 1970 to 2069.
def fullYear (y : Nat) : Nat := if y < 70 then y + 2000 else if y < 100 then y + 1900 else y

def isLeapYear (y : Nat) : Bool := y % 4 == 0 && (y % 100 != 0 || y % 400 == 0)

def daysInMonth (y m : Nat) : Nat :=
  if m = 2 then if isLeapYear y then 29 else 28
  else if m = 4 ∨ m = 6 ∨ m = 9 ∨ m = 11 then 30 else 31

-- The number of days from the start of the calendar to the first of a year.
def daysBeforeYear (y : Nat) : Int :=
  let n : Int := (y : Int) - 1
  n * 365 + Int.fdiv n 4 - Int.fdiv n 100 + Int.fdiv n 400

def daysBeforeMonth (y m : Nat) : Nat :=
  (List.range (m - 1)).foldl (fun n i => n + daysInMonth y (i + 1)) 0

namespace Moment

def isReal (m : Moment) : Bool :=
  1 ≤ m.day && m.day ≤ daysInMonth m.year m.month && m.hour ≤ 23 && m.minute ≤ 59 && m.second ≤ 59

-- Seconds since the start of 1970.
def seconds (m : Moment) : Int :=
  let days :=
    daysBeforeYear m.year - daysBeforeYear 1970 + daysBeforeMonth m.year m.month + m.day - 1
  ((days * 24 + m.hour) * 60 + m.minute) * 60 + m.second

end Moment

def isDigit (c : Char) : Bool := '0' ≤ c && c ≤ '9'

def decimal (ds : List Char) : Nat := ds.foldl (fun n c => n * 10 + (c.toNat - 48)) 0

-- A number of exactly as many digits as asked for.
def digits? (n : Nat) (cs : List Char) : Option (Nat × List Char) :=
  let ds := cs.take n
  if ds.length = n ∧ ds.all isDigit then some (decimal ds, cs.drop n) else none

def year? (cs : List Char) : Option (Nat × List Char) :=
  let ds := (cs.take 4).takeWhile isDigit
  if ds.isEmpty then none else some (decimal ds, cs.drop ds.length)

-- A day of two digits, or of one digit after a blank.
def paddedDay? (cs : List Char) : Option (Nat × List Char) :=
  match cs with
  | ' ' :: rest => digits? 1 rest
  | cs => digits? 2 cs

-- The first of some names that a text starts with, by its number from one.
def name? (names : List String) (cs : List Char) : Option (Nat × List Char) :=
  (names.zipIdx 1).findSome? fun n => (Text.after? n.1.toList cs).map fun rest => (n.2, rest)

def literal? (s : String) (cs : List Char) : Option (List Char) := Text.after? s.toList cs

def clock? (cs : List Char) : Option ((Nat × Nat × Nat) × List Char) := do
  let (h, cs) ← digits? 2 cs
  let cs ← literal? ":" cs
  let (m, cs) ← digits? 2 cs
  let cs ← literal? ":" cs
  let (s, cs) ← digits? 2 cs
  return ((h, m, s), cs)

-- A day, a month and a year with a mark between them, then the time in Greenwich.
def dayMonthYear? (mark : String) (year? : List Char → Option (Nat × List Char)) (cs : List Char) :
    Option Moment := do
  let (day, cs) ← digits? 2 cs
  let cs ← literal? mark cs
  let (month, cs) ← name? months cs
  let cs ← literal? mark cs
  let (year, cs) ← year? cs
  let cs ← literal? " " cs
  let ((hour, minute, second), cs) ← clock? cs
  let cs ← literal? " GMT" cs
  if cs.isEmpty then return { year := fullYear year, month, day, hour, minute, second } else none

-- "Thu, 01 Jan 1970 00:00:00 GMT"; the day of the week may be missing.
def modern? (cs : List Char) : Option Moment :=
  let rest := do
    let (_, cs) ← name? shortDays cs
    literal? ", " cs
  dayMonthYear? " " year? (rest.getD cs)

-- "Thursday, 01-Jan-70 00:00:00 GMT".
def older? (cs : List Char) : Option Moment := do
  let (_, cs) ← name? longDays cs
  let cs ← literal? ", " cs
  dayMonthYear? "-" (digits? 2) cs

-- "Thu Jan  1 00:00:00 1970".
def plain? (cs : List Char) : Option Moment := do
  let (_, cs) ← name? shortDays cs
  let cs ← literal? " " cs
  let (month, cs) ← name? months cs
  let cs ← literal? " " cs
  let (day, cs) ← paddedDay? cs
  let cs ← literal? " " cs
  let ((hour, minute, second), cs) ← clock? cs
  let cs ← literal? " " cs
  let (year, cs) ← year? cs
  if cs.isEmpty then return { year := fullYear year, month, day, hour, minute, second } else none

-- "Thu, 01-Jan-1970 00:00:00 GMT".
def hyphened? (cs : List Char) : Option Moment := do
  let (_, cs) ← name? shortDays cs
  let cs ← literal? ", " cs
  dayMonthYear? "-" year? cs

-- The moment a text names, if it has one of the forms and the moment exists.
def date? (cs : List Char) : Option Moment :=
  (modern? cs <|> older? cs <|> plain? cs <|> hyphened? cs).filter Moment.isReal

end ProfileSession.Cookie
