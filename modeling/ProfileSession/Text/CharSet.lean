import ProfileSession.Text.Split

namespace ProfileSession.Text

-- The value of a hexadecimal digit of either case.
def hexDigit? (c : Char) : Option Nat :=
  if '0' ≤ c ∧ c ≤ '9' then some (c.toNat - 48)
  else if 'a' ≤ c ∧ c ≤ 'f' then some (c.toNat - 87)
  else if 'A' ≤ c ∧ c ≤ 'F' then some (c.toNat - 55)
  else none

-- The value of a run of hexadecimal digits, none for any other text. No digits are zero.
def hexNat? (cs : List Char) : Option Nat :=
  cs.foldl (fun n c => n.bind fun n => (hexDigit? c).map (n * 16 + ·)) (some 0)

structure CharSet where
  ranges : List (Nat × Nat)

namespace CharSet

-- One range, "41-5a", or a single code point, "aa".
def range? (cs : List Char) : Option (Nat × Nat) :=
  match pieces (· == '-') cs with
  | [[]] => none
  | [lo] => (hexNat? lo).map fun n => (n, n)
  | [lo, hi] => (hexNat? lo).bind fun a => (hexNat? hi).map fun b => (a, b)
  | _ => none

def ofHex (s : String) : CharSet := ⟨(pieces isBlank s.toList).filterMap range?⟩

def contains (set : CharSet) (c : Char) : Bool :=
  set.ranges.any fun r => r.1 ≤ c.toNat && c.toNat ≤ r.2

end CharSet

end ProfileSession.Text
