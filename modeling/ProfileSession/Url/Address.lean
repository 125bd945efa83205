import ProfileSession.Text.Split
import ProfileSession.Text.CharSet

namespace ProfileSession.Url

-- The value of a run of digits of a base, none if another character is among them.
def digits? (base : Nat) (cs : List Char) : Option Nat :=
  cs.foldl
    (fun n c => n.bind fun n => (Text.hexDigit? c).bind fun d =>
      if d < base then some (n * base + d) else none)
    (some 0)

-- A number in decimal, in octal after a zero, or in hexadecimal after "0x".
def ipv4Number? (cs : List Char) : Option Nat :=
  match cs with
  | [] => none
  | ['0'] => some 0
  | '0' :: 'x' :: ds => digits? 16 ds
  | '0' :: 'X' :: ds => digits? 16 ds
  | '0' :: ds => digits? 8 ds
  | ds => digits? 10 ds

-- Whether the last part of a name makes it a numeric address.
def endsInNumber (cs : List Char) : Bool :=
  let isNumber := fun (part : List Char) =>
    (!part.isEmpty && part.all fun c => '0' ≤ c && c ≤ '9') || (ipv4Number? part).isSome
  match (Text.pieces (· == '.') cs).reverse with
  | [] :: last :: _ => isNumber last
  | [] :: [] => false
  | last :: _ => isNumber last
  | [] => false

-- The address of one to four numbers: all but the last fill one place each.
def ipv4OfNumbers? (ns : List Nat) : Option Nat :=
  match ns.reverse with
  | [] => none
  | last :: front =>
    let front := front.reverse
    if 4 ≤ front.length ∨ Nat.pow 256 (4 - front.length) ≤ last ∨ front.any (255 < ·) then none
    else
      some ((front.zip [3, 2, 1, 0]).foldl (fun n p => n + p.1 * Nat.pow 256 p.2) last)

def ipv4? (cs : List Char) : Option Nat :=
  let parts := Text.pieces (· == '.') cs
  let parts := if parts.getLast? = some [] then parts.dropLast else parts
  (parts.mapM ipv4Number?).bind ipv4OfNumbers?

-- One number of a dotted tail: at most 255, without a zero in front.
def tailNumber? (cs : List Char) : Option Nat :=
  match cs with
  | [] => none
  | ['0'] => some 0
  | '0' :: _ => none
  | ds => if ds.length ≤ 3 then (digits? 10 ds).filter (· ≤ 255) else none

def dottedTail? (cs : List Char) : Option (List Nat) :=
  match (Text.pieces (· == '.') cs).map tailNumber? with
  | [some a, some b, some c, some d] => some [a * 256 + b, c * 256 + d]
  | _ => none

def piece? (cs : List Char) : Option Nat :=
  if cs.isEmpty ∨ 4 < cs.length then none else Text.hexNat? cs

-- Pieces with single colons between them; at the end of an address the last may be a dotted tail.
def pieceRun? (atEnd : Bool) : List (List Char) → Option (List Nat)
  | [] => some []
  | [last] =>
    if atEnd && last.contains '.' then dottedTail? last else (piece? last).map fun n => [n]
  | p :: ps => do return (← piece? p) :: (← pieceRun? atEnd ps)

def cutDouble? : List Char → Option (List Char × List Char)
  | [] => none
  | ':' :: ':' :: cs => some ([], cs)
  | c :: cs => (cutDouble? cs).map fun r => (c :: r.1, r.2)

def pieceList? (atEnd : Bool) (cs : List Char) : Option (List Nat) :=
  if cs.isEmpty then some [] else pieceRun? atEnd (Text.pieces (· == ':') cs)

def ipv6? (cs : List Char) : Option (List Nat) :=
  match cutDouble? cs with
  | none => (pieceList? true cs).filter fun ps => ps.length = 8
  | some (front, back) => do
    let front ← pieceList? false front
    let back ← pieceList? true back
    if front.length + back.length < 8 then
      return front ++ List.replicate (8 - front.length - back.length) 0 ++ back
    else none

end ProfileSession.Url
