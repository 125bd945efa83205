namespace ProfileSession.Decimal

structure Digits where
  digits : Nat
  exponent : Int
deriving DecidableEq, Repr

-- A quotient of natural numbers as the interval tests need it: num / den, den positive.
structure Ratio where
  num : Nat
  den : Nat

namespace Ratio

def le (a b : Ratio) : Bool := a.num * b.den ≤ b.num * a.den

def lt (a b : Ratio) : Bool := a.num * b.den < b.num * a.den

-- n · b^e for an exponent of either sign.
def scaled (n : Nat) (b : Nat) : Int → Ratio
  | .ofNat e => ⟨n * b.pow e, 1⟩
  | .negSucc e => ⟨n, b.pow (e + 1)⟩

def distance (a b : Ratio) : Ratio :=
  ⟨(a.num * b.den - b.num * a.den) + (b.num * a.den - a.num * b.den), a.den * b.den⟩

-- The exponent of the leading decimal digit of a positive quotient.
def leading (r : Ratio) : Int :=
  if r.den ≤ r.num then ((Nat.toDigits 10 (r.num / r.den)).length : Int) - 1
  else
    let d := (Nat.toDigits 10 (r.den / r.num)).length
    if r.den ≤ r.num * Nat.pow 10 (d - 1) then -((d : Int) - 1) else -(d : Int)

end Ratio

-- The reals that round to m · 2^q. Below a power of two the neighbours stand closer together.
structure Interval where
  lo : Ratio
  hi : Ratio
  closed : Bool

def Interval.of (m : Nat) (q : Int) (narrowBelow : Bool) : Interval where
  lo :=
    if narrowBelow then Ratio.scaled (4 * m - 1) 2 (q - 2)
    else Ratio.scaled (2 * m - 1) 2 (q - 1)
  hi := Ratio.scaled (2 * m + 1) 2 (q - 1)
  closed := m % 2 == 0

def Interval.contains (i : Interval) (r : Ratio) : Bool :=
  if i.closed then i.lo.le r && r.le i.hi else i.lo.lt r && r.lt i.hi

-- The multiple of 10^e nearest to a value among those of its two neighbours inside the interval.
def onGrid (v : Ratio) (i : Interval) (e : Int) : Option Digits :=
  let unit := Ratio.scaled 1 10 e
  let below := (v.num * unit.den) / (v.den * unit.num)
  let point := fun n => Ratio.scaled n 10 e
  let down := i.contains (point below)
  let up := i.contains (point (below + 1))
  let dDown := v.distance (point below)
  let dUp := v.distance (point (below + 1))
  if down && up then
    if dDown.lt dUp || (!dUp.lt dDown && below % 2 == 0) then some ⟨below, e⟩
    else some ⟨below + 1, e⟩
  else if down then some ⟨below, e⟩
  else if up then some ⟨below + 1, e⟩
  else none

def trimZeros : Nat → Digits → Digits
  | 0, d => d
  | n + 1, d =>
    if d.digits ≠ 0 ∧ d.digits % 10 = 0 then trimZeros n ⟨d.digits / 10, d.exponent + 1⟩ else d

-- The shortest decimal for m · 2^q with m positive. Seventeen digits always suffice.
def shortest (m : Nat) (q : Int) (narrowBelow : Bool) : Digits :=
  let v := Ratio.scaled m 2 q
  let i := Interval.of m q narrowBelow
  let top := v.leading
  match (List.range 17).findSome? fun (n : Nat) => onGrid v i (top - n) with
  | some d => trimZeros 20 d
  | none => ⟨m, q⟩

inductive Shape where
  | nan
  | infinite (negative : Bool)
  | zero (negative : Bool)
  | finite (negative : Bool) (digits : Digits)

def Shape.of (x : Float) : Shape :=
  let bits := x.toBits.toNat
  let negative := bits / 0x8000000000000000 == 1
  let e : Nat := bits / 0x10000000000000 % 0x800
  let f : Nat := bits % 0x10000000000000
  if e = 2047 then if f = 0 then .infinite negative else .nan
  else if e = 0 then
    if f = 0 then .zero negative else .finite negative (shortest f (-1074) false)
  else .finite negative (shortest (0x10000000000000 + f) ((e : Int) - 1075) (f == 0 && e != 1))

end ProfileSession.Decimal
