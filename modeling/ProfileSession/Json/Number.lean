import ProfileSession.Json.Value
import ProfileSession.Json.Fault

namespace ProfileSession.Json

def isDigit (c : Char) : Bool := '0' ≤ c && c ≤ '9'

def digitValue (c : Char) : Nat := c.toNat - 48

-- Adds digits to a number while it stays within a bound; the digits that do not fit are left.
def absorb (bound : Nat) (n : Nat) : List Char → Nat × List Char
  | [] => (n, [])
  | d :: ds =>
    if n * 10 + digitValue d ≤ bound then absorb bound (n * 10 + digitValue d) ds
    else (n, d :: ds)

def wordMax : Nat := 0xFFFFFFFFFFFFFFFF

def exponentMax : Nat := 0x7FFFFFFF

def powerOfTen (n : Nat) : Float := Float.ofScientific 1 false n

-- Divides by a power of ten, in steps of the largest power that is a number itself.
def divideByPower (f : Float) (e : Nat) : Float :=
  if e ≤ 308 then f / powerOfTen e
  else if f == 0 then f
  else divideByPower (f / powerOfTen 308) (e - 308)
termination_by e

-- The product of a number and a power of ten, none if it is beyond all numbers.
def scale? (significand : Nat) (e : Int) : Option Float :=
  let f := significand.toUInt64.toFloat
  if 0 ≤ e then
    if e ≤ 308 then
      let g := f * powerOfTen e.toNat
      if g.isInf then none else some g
    else if f == 0 then some f else none
  else some (divideByPower f e.natAbs)

def signed (negative : Bool) (f : Float) : Float := if negative then -f else f

-- The number with the given significand and exponent, when its text has been read.
def realOf (negative : Bool) (significand : Nat) (e : Int) : Reader Json := fun cs =>
  match scale? significand e with
  | some f => .ok (.real (signed negative f), cs)
  | none => stop .outOfRange cs

def exponent (negative : Bool) (significand : Nat) (start : Int) : Reader Json := fun cs =>
  let (down, cs) := match cs with
    | '+' :: cs => (false, cs)
    | '-' :: cs => (true, cs)
    | cs => (false, cs)
  match cs with
  | [] => stop .endInValue []
  | c :: _ =>
    if !isDigit c then stopAtNext .badNumber cs
    else
      let (e, left) := absorb exponentMax 0 (cs.takeWhile isDigit)
      let rest := cs.dropWhile isDigit
      match left with
      | [] => realOf negative significand (if down then start - e else start + e) rest
      | _ :: more =>
        if significand ≠ 0 && !down then stop .outOfRange (more ++ rest)
        else .ok (.real (signed negative 0), rest)

-- What may follow the digits of a number that is not whole.
def exponentOrEnd (negative : Bool) (significand : Nat) (e : Int) : Reader Json := fun cs =>
  match cs with
  | 'e' :: rest => exponent negative significand e rest
  | 'E' :: rest => exponent negative significand e rest
  | _ => realOf negative significand e cs

def fraction (negative : Bool) (significand : Nat) (start : Int) : Reader Json := fun cs =>
  let ds := cs.takeWhile isDigit
  if ds.isEmpty then
    match cs with
    | [] => stopAtNext .endInValue []
    | _ => stopAtNext .badNumber cs
  else
    let (n, left) := absorb wordMax significand ds
    exponentOrEnd negative n (start - (ds.length - left.length : Nat)) (cs.dropWhile isDigit)

def intMin : Int := -0x8000000000000000

-- A whole number of 64 bits, negative ones down to the least signed word. A negative zero is no
-- whole number.
def wholeOrReal (negative : Bool) (n : Nat) : Json :=
  if !negative then .int n
  else if n ≠ 0 ∧ intMin ≤ -(n : Int) then .int (-n)
  else .real (-(n.toUInt64.toFloat))

def number (negative : Bool) : Reader Json := fun cs =>
  match cs with
  | [] => stop .endInValue []
  | c :: rest =>
    if !isDigit c then stopAtNext .badNumber cs
    else if c = '0' && (rest.head?.any isDigit) then stopAtNext .badNumber rest
    else
      let ds := cs.takeWhile isDigit
      let rest := cs.dropWhile isDigit
      let (n, left) := absorb wordMax 0 ds
      match rest with
      | '.' :: rest => fraction negative n left.length rest
      | 'e' :: rest => exponent negative n left.length rest
      | 'E' :: rest => exponent negative n left.length rest
      | _ =>
        if left.isEmpty then .ok (wholeOrReal negative n, rest)
        else realOf negative n left.length rest

def skipExponent : Reader Unit := fun cs =>
  let cs := match cs with
    | '+' :: cs => cs
    | '-' :: cs => cs
    | cs => cs
  match cs with
  | [] => stop .badNumber []
  | c :: rest =>
    if isDigit c then .ok ((), rest.dropWhile isDigit) else stopAtNext .badNumber cs

-- Passes over a number after its sign, without a look at its value.
def skipNumber : Reader Unit := fun cs =>
  let tail : Reader Unit := fun cs =>
    match cs with
    | 'e' :: rest => skipExponent rest
    | 'E' :: rest => skipExponent rest
    | _ => .ok ((), cs)
  match cs with
  | [] => stop .badNumber []
  | c :: rest =>
    if !isDigit c then stopAtNext .badNumber cs
    else if c = '0' && (rest.head?.any isDigit) then stopAtNext .badNumber rest
    else
      let rest := cs.dropWhile isDigit
      match rest with
      | '.' :: rest =>
        if rest.head?.any isDigit then tail (rest.dropWhile isDigit) else stopAtNext .badNumber rest
      | _ => tail rest

end ProfileSession.Json
