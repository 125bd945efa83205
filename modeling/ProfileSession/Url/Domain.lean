import ProfileSession.Text.Fold
import ProfileSession.Text.Compose
import ProfileSession.Text.Direction
import ProfileSession.Text.Escaped
import ProfileSession.Text.Utf8
import ProfileSession.Url.Punycode

namespace ProfileSession.Url.Domain

-- ASCII characters that no host of a URL holds.
def forbidden (c : Char) : Bool :=
  c.toNat ≤ 0x20 || c.toNat == 0x7F || "%#/:<>?@[\\]^|".contains c

def isJoiner (c : Char) : Bool := c.toNat == 0x200C || c.toNat == 0x200D

-- Whether a character outside ASCII may stand in a name.
def isNameChar (c : Char) : Bool := Text.isVisible c || Text.isMark c || isJoiner c

-- The folded form of a character of a name, none if it may not stand there. The ideographic full
-- stop separates labels as a point does.
def mapChar? (c : Char) : Option (List Char) :=
  if c.toNat < 0x80 then some [c.toLower]
  else if c.toNat = 0x3002 then some ['.']
  else
    let folded := (Text.fold c).map fun d => if d.toNat = 0x3002 then '.' else d
    if folded = [c] ∧ !isNameChar c then none else some folded

def mapName? (cs : List Char) : Option (List Char) :=
  (cs.mapM mapChar?).map fun parts => Text.compose parts.flatten

-- A joiner stands behind a mark that joins.
def joinersFit : List Char → Bool
  | [] => true
  | [c] => !isJoiner c
  | c :: d :: cs =>
    !isJoiner c && (!isJoiner d || Text.combiningClass c.toNat == 9) &&
      joinersFit (if isJoiner d then cs else d :: cs)
termination_by cs => cs.length
decreasing_by all_goals (split <;> simp only [List.length_cons] <;> omega)

-- Whether a label is in folded form: every character stands for itself, and all are composed.
def isFolded (cs : List Char) : Bool :=
  cs.all (fun c => mapChar? c == some [c]) && Text.compose cs == cs

-- Whether a label outside ASCII is well formed: in folded form, not too long for punycode, and
-- without a mark in front.
def isSound (cs : List Char) : Bool :=
  isFolded cs && Punycode.fits cs && !cs.contains '.' && !(cs.head?.any Text.isMark) &&
    joinersFit cs

def isAscii (cs : List Char) : Bool := cs.all fun c => c.toNat < 0x80

-- Whether a label can be read in one direction. One that starts with a letter to the right holds
-- nothing that runs to the left; one that starts with a letter to the left holds none to the right,
-- and digits of one kind. Marks aside, either ends in a letter of its direction or a digit.
def readsOneWay (cs : List Char) : Bool :=
  let directions := cs.map Text.direction
  let last? := directions.reverse.find? (· != .mark)
  match directions.head? with
  | none => true
  | some .rightward =>
    !directions.any (fun d => d == .leftward || d == .arabicDigit) &&
      (last? == some .rightward || last? == some .europeanDigit)
  | some .leftward =>
    !directions.contains .rightward &&
      !(directions.contains .europeanDigit && directions.contains .arabicDigit) &&
      last?.any (· != .neutral)
  | some _ => false

-- A name that holds something that runs to the left has only labels that can be read in one
-- direction.
def directionsFit (labels : List (List Char)) : Bool :=
  let directions := labels.flatten.map Text.direction
  !(directions.contains .leftward || directions.contains .arabicDigit) || labels.all readsOneWay

-- What a label says. One that is in punycode must say what no plainer label says.
def reading? (cs : List Char) : Option (List Char) :=
  match cs with
  | 'x' :: 'n' :: '-' :: '-' :: code =>
    if isAscii code then
      match Punycode.decode? code with
      | some decoded =>
        if !isAscii decoded && isSound decoded && Punycode.encode decoded = code then some decoded
        else none
      | none => none
    else none
  | cs => if isAscii cs && isFolded cs || isSound cs then some cs else none

-- A label in ASCII, from what it says.
def label (cs : List Char) : List Char :=
  if isAscii cs then cs else 'x' :: 'n' :: '-' :: '-' :: Punycode.encode cs

-- The ASCII form of a name; `refused` names the ASCII characters that may not stand in it.
def toAscii? (refused : Char → Bool) (cs : List Char) : Option (List Char) := do
  let mapped ← mapName? cs
  if mapped.any fun c => c.toNat < 0x80 && refused c then none
  else
    let readings ← (Text.pieces (· == '.') mapped).mapM reading?
    if directionsFit readings then return Text.join ['.'] (readings.map label) else none

end ProfileSession.Url.Domain
