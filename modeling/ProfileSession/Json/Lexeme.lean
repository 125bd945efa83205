import ProfileSession.Json.Fault
import ProfileSession.Text.CharSet

namespace ProfileSession.Json

def isBlank (c : Char) : Bool := c == ' ' || c == '\n' || c == '\t' || c == '\r'

def skipBlanks (cs : List Char) : List Char := cs.dropWhile isBlank

-- The rest of a fixed word whose first letter has been read.
def word : List Char → Reader Unit
  | [], cs => .ok ((), cs)
  | _ :: _, [] => stop .endInValue []
  | w :: ws, c :: cs => if w = c then word ws cs else stopAtNext .wantWord (c :: cs)

-- Four hexadecimal digits. Too short a text is missing its closing quote.
def fourDigits : Reader Nat := fun cs =>
  match cs with
  | a :: b :: c :: d :: rest =>
    match Text.hexNat? [a, b, c, d] with
    | some n => .ok (n, rest)
    | none => .error ⟨.badEscape, cs, 4⟩
  | _ => if Text.byteCount cs < 4 then stop .endInText [] else .error ⟨.badEscape, cs, 4⟩

def isLeadingSurrogate (n : Nat) : Bool := 0xD800 ≤ n && n ≤ 0xDBFF

def isTrailingSurrogate (n : Nat) : Bool := 0xDC00 ≤ n && n ≤ 0xDFFF

def joinSurrogates (hi lo : Nat) : Nat := (hi - 0xD800) * 0x400 + (lo - 0xDC00) + 0x10000

-- The second half of a character that is written as two surrogates.
def trailingSurrogate (hi : Nat) : Reader Char := fun cs =>
  match cs with
  | [] => stop .endInText []
  | '\\' :: cs =>
    match cs with
    | [] => stop .endInText []
    | 'u' :: cs => do
      let (lo, rest) ← fourDigits cs
      if isTrailingSurrogate lo then return (Char.ofNat (joinSurrogates hi lo), rest)
      else stop .loneSurrogate rest
    | cs => stopAtNext .endOfHexEscape cs
  | cs => stopAtNext .endOfHexEscape cs

def numbered : Reader Char := fun cs => do
  let (n, rest) ← fourDigits cs
  if isTrailingSurrogate n then stop .loneSurrogate rest
  else if isLeadingSurrogate n then trailingSurrogate n rest
  else return (Char.ofNat n, rest)

-- The character that stands for itself or for a control character after a backslash.
def shortEscape? (c : Char) : Option Char :=
  if c = '"' ∨ c = '\\' ∨ c = '/' then some c
  else if c = 'b' then some '\x08'
  else if c = 'f' then some '\x0c'
  else if c = 'n' then some '\n'
  else if c = 'r' then some '\r'
  else if c = 't' then some '\t'
  else none

def escape : Reader Char := fun cs =>
  match cs with
  | [] => stop .endInText []
  | c :: rest =>
    if c = 'u' then numbered rest
    else match shortEscape? c with
      | some e => .ok (e, rest)
      | none => stopAtNext .badEscape cs

-- The characters of a text up to its closing quote; those read so far are in reverse. The number
-- bounds the steps, of which each takes at least one character.
def characters : Nat → List Char → Reader (List Char)
  | 0, _, _ => stop .endInText []
  | _ + 1, _, [] => stop .endInText []
  | n + 1, sofar, c :: cs =>
    if c = '"' then .ok (sofar.reverse, cs)
    else if c = '\\' then
      match escape cs with
      | .ok (e, rest) => characters n (e :: sofar) rest
      | .error s => .error s
    else if c.toNat < 0x20 then stopAtNext .controlCharacter (c :: cs)
    else characters n (c :: sofar) cs

def quoted (fuel : Nat) : Reader String := fun cs => do
  let (chars, rest) ← characters fuel [] cs
  return (String.ofList chars, rest)

-- What follows a backslash in a text that is passed over: any number will do.
def skipEscape : Reader Unit := fun cs =>
  match cs with
  | [] => stop .endInText []
  | c :: rest =>
    if c = 'u' then (fourDigits rest).map fun r => ((), r.2)
    else if (shortEscape? c).isSome then .ok ((), rest)
    else stopAtNext .badEscape cs

def skipText : Nat → Reader Unit
  | 0, _ => stop .endInText []
  | _ + 1, [] => stop .endInText []
  | n + 1, c :: cs =>
    if c = '"' then .ok ((), cs)
    else if c = '\\' then
      match skipEscape cs with
      | .ok (_, rest) => skipText n rest
      | .error s => .error s
    else if c.toNat < 0x20 then stop .controlCharacter (c :: cs)
    else skipText n cs

end ProfileSession.Json
