namespace ProfileSession.Url.Punycode

-- The digits of the variable-length numbers: a to z are 0 to 25, the decimal digits 26 to 35.
def digitChar (d : Nat) : Char := if d < 26 then Char.ofNat (97 + d) else Char.ofNat (22 + d)

def digit? (c : Char) : Option Nat :=
  if 'a' ≤ c ∧ c ≤ 'z' then some (c.toNat - 97)
  else if 'A' ≤ c ∧ c ≤ 'Z' then some (c.toNat - 65)
  else if '0' ≤ c ∧ c ≤ '9' then some (c.toNat - 22)
  else none

-- The threshold of the digit at a place: a smaller digit is the last of its number.
def threshold (k bias : Nat) : Nat :=
  if k ≤ bias then 1 else if bias + 26 ≤ k then 26 else k - bias

-- Halvings of a distance until it is small, and how much they weigh.
def shrink (delta k : Nat) : Nat × Nat :=
  if delta ≤ 455 then (delta, k) else shrink (delta / 35) (k + 36)
termination_by delta

-- The bias after a number; it follows the size of the numbers before.
def adapt (delta points : Nat) (first : Bool) : Nat :=
  let delta := delta / (if first then 700 else 2)
  let (delta, k) := shrink (delta + delta / points) 0
  k + 36 * delta / (delta + 38)

-- A number in digits of falling weight.
def encodeNumber : Nat → Nat → Nat → Nat → List Char
  | 0, _, _, _ => []
  | fuel + 1, bias, k, q =>
    let t := threshold k bias
    if q < t then [digitChar q]
    else digitChar (t + (q - t) % (36 - t)) :: encodeNumber fuel bias (k + 36) ((q - t) / (36 - t))

-- What is carried through the encoding of one pass over the text.
structure Pass where
  delta : Nat
  bias : Nat
  handled : Nat
  out : List Char

-- Passes over the text for one code point: those below it count, it itself is written.
def encodePass (basic n : Nat) (p : Pass) (c : Nat) : Pass :=
  if c < n then { p with delta := p.delta + 1 }
  else if c = n then
    { delta := 0
      bias := adapt p.delta (p.handled + 1) (p.handled == basic)
      handled := p.handled + 1
      out := p.out ++ encodeNumber 12 p.bias 36 p.delta }
  else p

def encodeLoop (cs : List Nat) (basic : Nat) : Nat → Nat → Pass → List Char
  | 0, _, p => p.out
  | fuel + 1, n, p =>
    match (cs.filter (n ≤ ·)).min? with
    | none => p.out
    | some m =>
      let p := { p with delta := p.delta + (m - n) * (p.handled + 1) }
      let p := cs.foldl (encodePass basic m) p
      encodeLoop cs basic fuel (m + 1) { p with delta := p.delta + 1 }

def encode (cs : List Char) : List Char :=
  let ascii := cs.filter fun c => c.toNat < 0x80
  let start := if ascii.isEmpty then [] else ascii ++ ['-']
  encodeLoop (cs.map Char.toNat) ascii.length (cs.length + 1) 0x80 ⟨0, 72, ascii.length, start⟩

-- Whether all numbers of a text are sure to have 32 bits at most.
def fits (cs : List Char) : Bool := cs.length * 0x110000 < 0x100000000

-- One number of variable length, and what follows it.
def decodeNumber (bias : Nat) : Nat → Nat → Nat → List Char → Option (Nat × List Char)
  | _, _, _, [] => none
  | i, w, k, c :: cs => do
    let d ← digit? c
    let i := i + d * w
    if 0x100000000 ≤ i then none
    else
      let t := threshold k bias
      if d < t then return (i, cs) else decodeNumber bias i (w * (36 - t)) (k + 36) cs

-- Puts the characters of the numbers into the text one by one.
def decodeLoop : Nat → Nat → Nat → Nat → List Nat → List Char → Option (List Nat)
  | 0, _, _, _, _, _ => none
  | fuel + 1, n, i, bias, out, cs =>
    match cs with
    | [] => some out
    | cs => do
      let (j, rest) ← decodeNumber bias i 1 36 cs
      let points := out.length + 1
      let n := n + j / points
      let place := j % points
      if n < 0x110000 ∧ ¬(0xD800 ≤ n ∧ n ≤ 0xDFFF) then
        decodeLoop fuel n (place + 1) (adapt (j - i) points (i == 0))
          (out.take place ++ n :: out.drop place) rest
      else none

-- Cuts at the last hyphen; without one there are no ASCII characters.
def cutBasic (cs : List Char) : List Char × List Char :=
  match cs.reverse.span (· != '-') with
  | (_, []) => ([], cs)
  | (back, _ :: front) => (front.reverse, back.reverse)

def decode? (cs : List Char) : Option (List Char) :=
  let (ascii, numbers) := cutBasic cs
  (decodeLoop (numbers.length + 1) 0x80 0 72 (ascii.map Char.toNat) numbers).map
    (·.map Char.ofNat)

end ProfileSession.Url.Punycode
