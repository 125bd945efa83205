import ProfileSession.Text.Position

namespace ProfileSession.Json

inductive Fault where
  | endInList
  | endInObject
  | endInText
  | endInValue
  | wantColon
  | wantListComma
  | wantObjectComma
  | wantWord
  | wantValue
  | badEscape
  | badNumber
  | outOfRange
  | keyNotText
  | loneSurrogate
  | endOfHexEscape
  | controlCharacter
  | trailingComma
  | trailingCharacters
  | tooDeep
  | wrongType (found : String) (wanted : String)
  | missingMember (name : String)
  | repeatedMember (name : String)
  | wrongLength (n : Nat) (wanted : String)
deriving DecidableEq, Repr

def Fault.message : Fault → String
  | .endInList => "EOF while parsing a list"
  | .endInObject => "EOF while parsing an object"
  | .endInText => "EOF while parsing a string"
  | .endInValue => "EOF while parsing a value"
  | .wantColon => "expected `:`"
  | .wantListComma => "expected `,` or `]`"
  | .wantObjectComma => "expected `,` or `\x7d`"
  | .wantWord => "expected ident"
  | .wantValue => "expected value"
  | .badEscape => "invalid escape"
  | .badNumber => "invalid number"
  | .outOfRange => "number out of range"
  | .keyNotText => "key must be a string"
  | .loneSurrogate => "lone leading surrogate in hex escape"
  | .endOfHexEscape => "unexpected end of hex escape"
  | .controlCharacter => "control character (\\u0000-\\u001F) found while parsing a string"
  | .trailingComma => "trailing comma"
  | .trailingCharacters => "trailing characters"
  | .tooDeep => "recursion limit exceeded"
  | .wrongType found wanted => "invalid type: " ++ found ++ ", expected " ++ wanted
  | .missingMember name => "missing field `" ++ name ++ "`"
  | .repeatedMember name => "duplicate field `" ++ name ++ "`"
  | .wrongLength n wanted => "invalid length " ++ toString n ++ ", expected " ++ wanted

-- Where a reader stopped: the fault, the text not yet read, and how many bytes of that text the
-- fault lies behind its beginning.
structure Stop where
  fault : Fault
  rest : List Char
  ahead : Nat := 0

-- A reader takes a value from the front of a text and tells what is left.
abbrev Reader (α : Type) := List Char → Except Stop (α × List Char)

-- A fault of the text read so far.
def stop (fault : Fault) (rest : List Char) : Except Stop α := .error ⟨fault, rest, 0⟩

-- A fault of the character that comes next.
def stopAtNext (fault : Fault) (rest : List Char) : Except Stop α := .error ⟨fault, rest, 1⟩

structure Error where
  fault : Fault
  position : Text.Position
deriving DecidableEq, Repr

def Error.message (e : Error) : String := e.fault.message ++ " at " ++ e.position.text

-- The place of a fault; one that lies behind the end is at the end.
def Stop.locate (whole : List Char) (s : Stop) : Error :=
  let total := Text.byteCount whole
  let offset := total - Text.byteCount s.rest + s.ahead
  ⟨s.fault, Text.Position.ofBytes whole (min offset total)⟩

end ProfileSession.Json
