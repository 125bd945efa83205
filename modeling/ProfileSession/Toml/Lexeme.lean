import ProfileSession.Toml.Value
import ProfileSession.Text.CharSet

namespace ProfileSession.Toml

-- A reader takes a value from the front of a text. Where it fails it tells the text that it could
-- not read.
abbrev Reader (α : Type) := List Char → Except (List Char) (α × List Char)

def fail (rest : List Char) : Except (List Char) α := .error rest

def isBlank (c : Char) : Bool := c == ' ' || c == '\t'

def skipBlanks (cs : List Char) : List Char := cs.dropWhile isBlank

-- Characters that stand for themselves wherever text is free: no controls but the tab.
def isPlain (c : Char) : Bool := c == '\t' || (0x20 ≤ c.toNat && c.toNat != 0x7F)

-- A line ends with a line feed, which a carriage return may precede.
def lineEnd? (cs : List Char) : Option (List Char) :=
  match cs with
  | '\n' :: rest => some rest
  | '\r' :: '\n' :: rest => some rest
  | _ => none

-- What may stand between a value and the end of its line.
def skipComment (cs : List Char) : List Char :=
  match cs with
  | '#' :: rest => rest.dropWhile isPlain
  | cs => cs

-- The end of a line or of the text, after blanks and a comment.
def endOfLine : Reader Unit := fun cs =>
  let rest := skipComment (skipBlanks cs)
  match rest with
  | [] => .ok ((), [])
  | rest =>
    match lineEnd? rest with
    | some next => .ok ((), next)
    | none => fail rest

-- Blanks, line ends and comments. The number bounds the steps.
def skipLines : Nat → List Char → List Char
  | 0, cs => cs
  | n + 1, cs =>
    let rest := skipBlanks cs
    match lineEnd? rest with
    | some next => skipLines n next
    | none =>
      match rest with
      | '#' :: more =>
        match lineEnd? (more.dropWhile isPlain) with
        | some next => skipLines n next
        | none => rest
      | rest => rest

-- A character written by a number of digits. Surrogates are none.
def numbered (digits : Nat) : Reader Char := fun cs =>
  let ds := cs.take digits
  match (if ds.length = digits then Text.hexNat? ds else none) with
  | some n =>
    if n < 0x110000 ∧ ¬(0xD800 ≤ n ∧ n ≤ 0xDFFF) then .ok (Char.ofNat n, cs.drop digits)
    else fail cs
  | none => fail cs

def shortEscape? (c : Char) : Option Char :=
  if c = '"' ∨ c = '\\' then some c
  else if c = 'b' then some '\x08'
  else if c = 't' then some '\t'
  else if c = 'n' then some '\n'
  else if c = 'f' then some '\x0c'
  else if c = 'r' then some '\r'
  else none

def escape : Reader Char := fun cs =>
  match cs with
  | [] => fail []
  | c :: rest =>
    if c = 'u' then numbered 4 rest
    else if c = 'U' then numbered 8 rest
    else match shortEscape? c with
      | some e => .ok (e, rest)
      | none => fail cs

-- A text of one line with escapes, after its opening quote. Characters so far are in reverse.
def basic : Nat → List Char → Reader (List Char)
  | 0, _, cs => fail cs
  | _ + 1, _, [] => fail []
  | n + 1, sofar, c :: cs =>
    if c = '"' then .ok (sofar.reverse, cs)
    else if c = '\\' then
      match escape cs with
      | .ok (e, rest) => basic n (e :: sofar) rest
      | .error rest => .error rest
    else if isPlain c then basic n (c :: sofar) cs
    else fail (c :: cs)

-- A text of one line without escapes, after its opening quote.
def literal : Reader (List Char) := fun cs =>
  let inside := fun c : Char => isPlain c && c != '\''
  match cs.dropWhile inside with
  | '\'' :: rest => .ok (cs.takeWhile inside, rest)
  | rest => fail rest

-- The end of a text of several lines. Of five quotes in a row the first two belong to the text.
def closing? (quote : Char) (cs : List Char) : Option (Nat × List Char) :=
  let run := (cs.takeWhile (· == quote)).length
  if run < 3 then none
  else
    let inside := min (run - 3) 2
    some (inside, cs.drop (inside + 3))

-- A line end after the opening quotes is not part of the text.
def dropLineEnd (cs : List Char) : List Char := (lineEnd? cs).getD cs

-- What may follow a backslash at the end of a line: any number of blanks and line ends.
def skipFolded : Nat → List Char → List Char
  | 0, cs => cs
  | n + 1, cs =>
    let rest := skipBlanks cs
    match lineEnd? rest with
    | some next => skipFolded n next
    | none => rest

-- A text of several lines with escapes, after its opening quotes. A line end is a line feed.
def basicLines (fuel : Nat) : Nat → List Char → Reader (List Char)
  | 0, _, cs => fail cs
  | _ + 1, _, [] => fail []
  | n + 1, sofar, c :: cs =>
    if c = '"' then
      match closing? '"' (c :: cs) with
      | some (inside, rest) => .ok ((List.replicate inside '"' ++ sofar).reverse, rest)
      | none => basicLines fuel n ('"' :: sofar) cs
    else if c = '\\' then
      match lineEnd? (skipBlanks cs) with
      | some next => basicLines fuel n sofar (skipFolded fuel next)
      | none =>
        match escape cs with
        | .ok (e, rest) => basicLines fuel n (e :: sofar) rest
        | .error rest => .error rest
    else match lineEnd? (c :: cs) with
      | some next => basicLines fuel n ('\n' :: sofar) next
      | none => if isPlain c then basicLines fuel n (c :: sofar) cs else fail (c :: cs)

-- A text of several lines without escapes, after its opening quotes.
def literalLines : Nat → List Char → Reader (List Char)
  | 0, _, cs => fail cs
  | _ + 1, _, [] => fail []
  | n + 1, sofar, c :: cs =>
    if c = '\'' then
      match closing? '\'' (c :: cs) with
      | some (inside, rest) => .ok ((List.replicate inside '\'' ++ sofar).reverse, rest)
      | none => literalLines n ('\'' :: sofar) cs
    else match lineEnd? (c :: cs) with
      | some next => literalLines n ('\n' :: sofar) next
      | none => if isPlain c then literalLines n (c :: sofar) cs else fail (c :: cs)

-- A text in any of the four forms, from its first quote on.
def text (fuel : Nat) : Reader String := fun cs =>
  let done := fun (r : List Char × List Char) => (String.ofList r.1, r.2)
  match cs with
  | '"' :: '"' :: '"' :: rest => (basicLines fuel fuel [] (dropLineEnd rest)).map done
  | '\'' :: '\'' :: '\'' :: rest => (literalLines fuel [] (dropLineEnd rest)).map done
  | '"' :: rest => (basic fuel [] rest).map done
  | '\'' :: rest => (literal rest).map done
  | cs => fail cs

end ProfileSession.Toml
