import ProfileSession.Decimal.Shortest

namespace ProfileSession.Decimal

-- A range of leading exponents that are written positionally; none means all of them.
structure Style where
  positional : Option (Int × Int)

-- The digits of a decimal, at least one.
def digitText (d : Digits) : List Char := Nat.toDigits 10 d.digits

-- Digits with a point among them, and at least one place after the point.
def written (d : Digits) : List Char :=
  let ds := digitText d
  if 0 ≤ d.exponent then ds ++ List.replicate d.exponent.toNat '0' ++ ['.', '0']
  else
    let places := (-d.exponent).toNat
    if places < ds.length then
      ds.take (ds.length - places) ++ '.' :: ds.drop (ds.length - places)
    else '0' :: '.' :: List.replicate (places - ds.length) '0' ++ ds

def leadingExponent (d : Digits) : Int := d.exponent + (digitText d).length - 1

-- One digit before the point, and an exponent with its sign and at least two digits.
def scientific (d : Digits) : List Char :=
  let ds := digitText d
  let e := leadingExponent d
  let mark := if e < 0 then '-' else '+'
  let es := Nat.toDigits 10 e.natAbs
  let es := if es.length < 2 then '0' :: es else es
  let fraction := ds.drop 1
  ds.take 1 ++ (if fraction.isEmpty then [] else '.' :: fraction) ++ 'e' :: mark :: es

def Style.digits (n : Style) (d : Digits) : List Char :=
  match n.positional with
  | none => written d
  | some (lo, hi) =>
    if lo ≤ leadingExponent d ∧ leadingExponent d ≤ hi then written d else scientific d

def Style.text (n : Style) (x : Float) : String :=
  let signed := fun (negative : Bool) (cs : List Char) =>
    String.ofList (if negative then '-' :: cs else cs)
  match Shape.of x with
  | .nan => "NaN"
  | .infinite negative => signed negative ['i', 'n', 'f']
  | .zero negative => signed negative ['0', '.', '0']
  | .finite negative d => signed negative (n.digits d)

def Style.plain : Style := ⟨none⟩

-- Positional from four places after the point to sixteen before it.
def Style.compact : Style := ⟨some (-4, 15)⟩

end ProfileSession.Decimal
