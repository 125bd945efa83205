import ProfileSession.Toml.Lexeme

namespace ProfileSession.Toml

def isDigit (c : Char) : Bool := '0' ≤ c && c ≤ '9'

-- Digits with single underscores between them.
def wellSpaced : List Char → Bool
  | [] => false
  | ['_'] => false
  | [_] => true
  | c :: d :: cs => !(c == '_' && d == '_') && wellSpaced (d :: cs)

-- A run of digits without its underscores; it starts and ends with a digit.
def digitRun (isDigit : Char → Bool) : Reader (List Char) := fun cs =>
  let inside := fun c : Char => isDigit c || c == '_'
  let run := cs.takeWhile inside
  if run.head?.any isDigit && wellSpaced run then
    .ok (run.filter (· != '_'), cs.dropWhile inside)
  else fail cs

-- The whole part of a number: a zero, or digits that do not start with one.
def wholePart : Reader (List Char) := fun cs =>
  match cs with
  | '0' :: rest => .ok (['0'], rest)
  | cs => digitRun isDigit cs

def decimal (ds : List Char) : Nat := ds.foldl (fun n c => n * 10 + (c.toNat - 48)) 0

-- The floating-point number nearest to m · 10^e; the first bounds keep the powers small.
def nearest (m : Nat) (e : Int) : Float :=
  let size := (Nat.toDigits 10 m).length + e
  if m = 0 then 0
  else if 400 < size then 1 / 0
  else if size < -400 then 0
  else if 0 ≤ e then Float.ofScientific m false e.toNat
  else Float.ofScientific m true e.natAbs

def exponent : Reader Int := fun cs => do
  let (negative, cs) := match cs with
    | '+' :: cs => (false, cs)
    | '-' :: cs => (true, cs)
    | cs => (false, cs)
  let (ds, rest) ← digitRun isDigit cs
  return (if negative then -(decimal ds : Int) else decimal ds, rest)

def realOf (negative : Bool) (m : Nat) (e : Int) : Reader Scalar := fun rest =>
  let x := nearest m e
  if negative then .ok (.real (-x), rest)
  else if x.isInf then fail rest
  else .ok (.real x, rest)

def isExponentMark (c : Char) : Bool := c == 'e' || c == 'E'

def wordMin : Int := -0x8000000000000000

def wordMax : Int := 0x7FFFFFFFFFFFFFFF

def intOf (n : Int) : Reader Scalar := fun rest =>
  if wordMin ≤ n ∧ n ≤ wordMax then .ok (.int n, rest) else fail rest

def decimalNumber (negative : Bool) : Reader Scalar := fun cs => do
  let (whole, rest) ← wholePart cs
  match rest with
  | '.' :: more =>
    let (places, rest) ← digitRun isDigit more
    let m := decimal (whole ++ places)
    match rest with
    | c :: more =>
      if isExponentMark c then
        let (e, rest) ← exponent more
        realOf negative m (e - places.length) rest
      else realOf negative m (-(places.length : Int)) rest
    | [] => realOf negative m (-(places.length : Int)) []
  | c :: more =>
    if isExponentMark c then
      let (e, rest) ← exponent more
      realOf negative (decimal whole) e rest
    else intOf (if negative then -(decimal whole : Int) else decimal whole) rest
  | [] => intOf (if negative then -(decimal whole : Int) else decimal whole) []

-- A whole number in another base, after its prefix.
def basedNumber (base : Nat) : Reader Scalar := fun cs => do
  let isDigit := fun c => (Text.hexDigit? c).any (· < base)
  let (ds, rest) ← digitRun isDigit cs
  intOf (ds.foldl (fun n c => n * base + (Text.hexDigit? c).getD 0) 0 : Nat) rest

-- Infinity and the number that is none.
def named (negative : Bool) : Reader Scalar := fun cs =>
  let inf : Float := 1 / 0
  match cs with
  | 'i' :: 'n' :: 'f' :: rest => .ok (.real (if negative then -inf else inf), rest)
  | 'n' :: 'a' :: 'n' :: rest => .ok (.real (0 / 0), rest)
  | cs => fail cs

def signedNumber (negative : Bool) : Reader Scalar := fun cs =>
  if cs.head?.any isDigit then decimalNumber negative cs else named negative cs

-- A fixed number of digits that stand for a number in a range.
def field (digits lo hi : Nat) : Reader Nat := fun cs =>
  let ds := cs.take digits
  if ds.length = digits ∧ ds.all isDigit ∧ lo ≤ decimal ds ∧ decimal ds ≤ hi then
    .ok (decimal ds, cs.drop digits)
  else fail cs

def mark (c : Char) : Reader Unit := fun cs =>
  match cs with
  | d :: rest => if c = d then .ok ((), rest) else fail cs
  | [] => fail []

def isLeapYear (y : Nat) : Bool := y % 4 == 0 && (y % 100 != 0 || y % 400 == 0)

def daysInMonth (y m : Nat) : Nat :=
  if m = 2 then if isLeapYear y then 29 else 28
  else if m = 4 ∨ m = 6 ∨ m = 9 ∨ m = 11 then 30 else 31

def dateAfterYear (y : Nat) : Reader Unit := fun cs => do
  let (_, cs) ← mark '-' cs
  let (m, cs) ← field 2 1 12 cs
  let (_, cs) ← mark '-' cs
  let (_, cs) ← field 2 1 (daysInMonth y m) cs
  return ((), cs)

-- Places after the point of a second.
def skipPlaces (cs : List Char) : List Char :=
  match cs with
  | '.' :: rest => if rest.head?.any isDigit then rest.dropWhile isDigit else cs
  | cs => cs

def timeAfterHour : Reader Unit := fun cs => do
  let (_, cs) ← mark ':' cs
  let (_, cs) ← field 2 0 59 cs
  let (_, cs) ← mark ':' cs
  let (_, cs) ← field 2 0 60 cs
  return ((), skipPlaces cs)

-- The distance from universal time, if one is given.
def offset : Reader Unit := fun cs =>
  match cs with
  | [] => .ok ((), [])
  | c :: rest =>
    if c = 'Z' ∨ c = 'z' then .ok ((), rest)
    else if c = '+' ∨ c = '-' then do
      let (_, rest) ← field 2 0 23 rest
      let (_, rest) ← mark ':' rest
      let (_, rest) ← field 2 0 59 rest
      return ((), rest)
    else .ok ((), cs)

def startsWithHour (cs : List Char) : Bool :=
  match field 2 0 23 cs with
  | .ok (_, ':' :: _) => true
  | _ => false

def startsWithYear (cs : List Char) : Bool :=
  match field 4 0 9999 cs with
  | .ok (_, '-' :: _) => true
  | _ => false

-- A date, which a time and an offset may follow.
def date : Reader Unit := fun cs => do
  let (y, cs) ← field 4 0 9999 cs
  let (_, cs) ← dateAfterYear y cs
  match cs with
  | [] => return ((), [])
  | c :: rest =>
    if (c = 'T' ∨ c = 't' ∨ c = ' ') ∧ startsWithHour rest then
      let (_, rest) ← timeAfterHour (rest.drop 2)
      offset rest
    else return ((), c :: rest)

-- A number or a date, from its first character on.
def numberOrDate : Reader Scalar := fun cs =>
  if startsWithYear cs then (date cs).map fun r => (.date, r.2)
  else if startsWithHour cs then (timeAfterHour (cs.drop 2)).map fun r => (.date, r.2)
  else match cs with
    | '+' :: rest => signedNumber false rest
    | '-' :: rest => signedNumber true rest
    | '0' :: 'x' :: rest => basedNumber 16 rest
    | '0' :: 'o' :: rest => basedNumber 8 rest
    | '0' :: 'b' :: rest => basedNumber 2 rest
    | cs => signedNumber false cs

end ProfileSession.Toml
