import ProfileSession.Text.CharSet
import ProfileSession.Text.Utf8

namespace ProfileSession.Url

def hexUpper (n : Nat) : Char := if n < 10 then Char.ofNat (48 + n) else Char.ofNat (55 + n)

def encodeByte (b : UInt8) : List Char := ['%', hexUpper (b.toNat / 16), hexUpper (b.toNat % 16)]

-- The bytes of a character, each by its number.
def encodeChar (c : Char) : List Char := (String.singleton c).toUTF8.toList.flatMap encodeByte

def isControl (c : Char) : Bool := c.toNat < 0x20 || c.toNat == 0x7F

def inOpaquePath (c : Char) : Bool := isControl c || 0x80 ≤ c.toNat

def inFragment (c : Char) : Bool :=
  inOpaquePath c || c == ' ' || c == '"' || c == '<' || c == '>' || c == '`'

def inPath (c : Char) : Bool := inFragment c || c == '#' || c == '?' || c == '\x7b' || c == '\x7d'

def inUserInfo (c : Char) : Bool := inPath c || "/:;=@[\\]^|".contains c

def inQuery (special : Bool) (c : Char) : Bool :=
  inOpaquePath c || c == ' ' || c == '"' || c == '#' || c == '<' || c == '>' ||
    (special && c == '\'')

def encode (inSet : Char → Bool) (cs : List Char) : List Char :=
  cs.flatMap fun c => if inSet c then encodeChar c else [c]

-- The bytes that a text stands for when each percent sign with two hexadecimal digits is a byte.
def decodeBytes : List Char → List UInt8
  | [] => []
  | '%' :: a :: b :: cs =>
    match Text.hexDigit? a, Text.hexDigit? b with
    | some hi, some lo => UInt8.ofNat (hi * 16 + lo) :: decodeBytes cs
    | _, _ => 0x25 :: decodeBytes (a :: b :: cs)
  | c :: cs => (String.singleton c).toUTF8.toList ++ decodeBytes cs

def decode? (cs : List Char) : Option (List Char) :=
  (String.fromUTF8? (ByteArray.mk (decodeBytes cs).toArray)).map String.toList

end ProfileSession.Url
