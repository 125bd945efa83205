import ProfileSession.Json.Lexeme
import ProfileSession.Json.Number

namespace ProfileSession.Json

-- A list or an object may stand inside this many others.
def depthLimit : Nat := 128

-- The next item of a list, if there is one; otherwise the text from the closing bracket on.
def nextItem? (first : Bool) : Reader Bool := fun cs =>
  match skipBlanks cs with
  | [] => stopAtNext .endInList []
  | c :: rest =>
    if c = ']' then .ok (false, c :: rest)
    else if first then .ok (true, c :: rest)
    else if c = ',' then
      match skipBlanks rest with
      | [] => stopAtNext .endInValue []
      | ']' :: more => stopAtNext .trailingComma (']' :: more)
      | more => .ok (true, more)
    else stopAtNext .wantListComma (c :: rest)

-- The name of the next member of an object, if there is one; otherwise the text from the closing
-- bracket on.
def nextName? (fuel : Nat) (first : Bool) : Reader (Option String) := fun cs =>
  let name : Reader (Option String) := fun cs =>
    match cs with
    | '"' :: rest => do
      let (s, rest) ← quoted fuel rest
      return (some s, rest)
    | cs => stopAtNext .keyNotText cs
  match skipBlanks cs with
  | [] => stopAtNext .endInObject []
  | c :: rest =>
    if c = '\x7d' then .ok (none, c :: rest)
    else if first then name (c :: rest)
    else if c = ',' then
      match skipBlanks rest with
      | [] => stopAtNext .endInValue []
      | '\x7d' :: more => stopAtNext .trailingComma ('\x7d' :: more)
      | more => name more
    else stopAtNext .wantObjectComma (c :: rest)

def colon : Reader Unit := fun cs =>
  match skipBlanks cs with
  | [] => stopAtNext .endInObject []
  | ':' :: rest => .ok ((), rest)
  | cs => stopAtNext .wantColon cs

def closeList : Reader Unit := fun cs =>
  match skipBlanks cs with
  | [] => stopAtNext .endInList []
  | ']' :: rest => .ok ((), rest)
  | ',' :: rest =>
    match skipBlanks rest with
    | ']' :: more => stopAtNext .trailingComma (']' :: more)
    | more => stopAtNext .trailingCharacters more
  | cs => stopAtNext .trailingCharacters cs

def closeObject : Reader Unit := fun cs =>
  match skipBlanks cs with
  | [] => stopAtNext .endInObject []
  | '\x7d' :: rest => .ok ((), rest)
  | ',' :: rest => stopAtNext .trailingComma (',' :: rest)
  | cs => stopAtNext .trailingCharacters cs

-- Lists and objects are read with the reader of an item, so that typed readers share the loops.
def items (item : Reader α) : Nat → Bool → List α → Reader (List α)
  | 0, _, _, _ => stop .endInList []
  | n + 1, first, sofar, cs => do
    let (more, rest) ← nextItem? first cs
    if more then
      let (a, rest) ← item rest
      items item n false (a :: sofar) rest
    else return (sofar.reverse, rest)

def pairs (fuel : Nat) (value : Reader α) :
    Nat → Bool → List (String × α) → Reader (List (String × α))
  | 0, _, _, _ => stop .endInObject []
  | n + 1, first, sofar, cs => do
    let (name, rest) ← nextName? fuel first cs
    match name with
    | none => return (sofar.reverse, rest)
    | some name =>
      let (_, rest) ← colon rest
      let (a, rest) ← value rest
      pairs fuel value n false ((name, a) :: sofar) rest

-- A value that is neither a list nor an object, from its first character on.
def scalar (fuel : Nat) : Reader Json := fun cs =>
  match cs with
  | 'n' :: rest => (word ['u', 'l', 'l'] rest).map fun r => (.null, r.2)
  | 't' :: rest => (word ['r', 'u', 'e'] rest).map fun r => (.bool true, r.2)
  | 'f' :: rest => (word ['a', 'l', 's', 'e'] rest).map fun r => (.bool false, r.2)
  | '-' :: rest => number true rest
  | '"' :: rest => (quoted fuel rest).map fun r => (.text r.1, r.2)
  | c :: _ => if isDigit c then number false cs else stopAtNext .wantValue cs
  | [] => stopAtNext .endInValue []

-- A value that may stand inside a number of others.
def value (fuel : Nat) : Nat → Reader Json
  | 0, _ => stop .tooDeep []
  | depth + 1, cs =>
    match skipBlanks cs with
    | '[' :: rest =>
      if depth = 0 then stopAtNext .tooDeep ('[' :: rest)
      else do
        let (vs, rest) ← items (value fuel depth) fuel true [] rest
        let (_, rest) ← closeList rest
        return (.list vs, rest)
    | '\x7b' :: rest =>
      if depth = 0 then stopAtNext .tooDeep ('\x7b' :: rest)
      else do
        let (ms, rest) ← pairs fuel (value fuel depth) fuel true [] rest
        let (_, rest) ← closeObject rest
        return (.object (members ms), rest)
    | cs => scalar fuel cs

-- The next item of a list that is passed over. A comma is followed by an item or by nothing that
-- is a value.
def nextSkipped? (first : Bool) : Reader Bool := fun cs =>
  match skipBlanks cs with
  | [] => stopAtNext .endInList []
  | c :: rest =>
    if c = ']' then .ok (false, rest)
    else if first then .ok (true, c :: rest)
    else if c = ',' then .ok (true, rest)
    else stopAtNext .wantListComma (c :: rest)

-- The next member of an object that is passed over, up to its value.
def nextSkippedName? (fuel : Nat) (first : Bool) : Reader Bool := fun cs =>
  let name : Reader Bool := fun cs =>
    match skipBlanks cs with
    | [] => stopAtNext .endInObject []
    | '"' :: rest => do
      let (_, rest) ← skipText fuel rest
      let (_, rest) ← colon rest
      return (true, rest)
    | cs => stopAtNext .keyNotText cs
  match skipBlanks cs with
  | [] => stopAtNext .endInObject []
  | c :: rest =>
    if c = '\x7d' then .ok (false, rest)
    else if first then name (c :: rest)
    else if c = ',' then name rest
    else stopAtNext .wantObjectComma (c :: rest)

def skipItems (item : Reader Unit) : Nat → Bool → Reader Unit
  | 0, _, _ => stop .endInList []
  | n + 1, first, cs => do
    let (more, rest) ← nextSkipped? first cs
    if more then
      let (_, rest) ← item rest
      skipItems item n false rest
    else return ((), rest)

def skipPairs (fuel : Nat) (value : Reader Unit) : Nat → Bool → Reader Unit
  | 0, _, _ => stop .endInObject []
  | n + 1, first, cs => do
    let (more, rest) ← nextSkippedName? fuel first cs
    if more then
      let (_, rest) ← value rest
      skipPairs fuel value n false rest
    else return ((), rest)

-- Passes over a value; the depth is a bound on the brackets inside it.
def skipValue (fuel : Nat) : Nat → Reader Unit
  | 0, _ => stop .tooDeep []
  | depth + 1, cs =>
    match skipBlanks cs with
    | [] => stopAtNext .endInValue []
    | '[' :: rest => skipItems (skipValue fuel depth) fuel true rest
    | '\x7b' :: rest => skipPairs fuel (skipValue fuel depth) fuel true rest
    | 'n' :: rest => word ['u', 'l', 'l'] rest
    | 't' :: rest => word ['r', 'u', 'e'] rest
    | 'f' :: rest => word ['a', 'l', 's', 'e'] rest
    | '-' :: rest => skipNumber rest
    | '"' :: rest => skipText fuel rest
    | c :: rest => if isDigit c then skipNumber (c :: rest) else stopAtNext .wantValue (c :: rest)

-- Reads a whole text with a reader that is told a bound on the steps of any loop. Only blanks may
-- follow what is read.
def readAll (reader : Nat → Reader α) (s : String) : Except Error α :=
  let cs := s.toList
  match reader (cs.length + 1) cs with
  | .error e => .error (e.locate cs)
  | .ok (a, rest) =>
    match skipBlanks rest with
    | [] => .ok a
    | rest => .error (Stop.locate cs ⟨.trailingCharacters, rest, 1⟩)

def read (s : String) : Except Error Json := readAll (fun fuel => value fuel depthLimit) s

end ProfileSession.Json
