import ProfileSession.Text.Split

namespace ProfileSession.Toml

-- Controls that no form of text holds without an escape.
def needsEscape (c : Char) : Bool := (c.toNat < 0x20 && c != '\t') || c.toNat == 0x7F

-- The most of a character in a row; `run` counts those just before.
def longestRun (quote : Char) (run best : Nat) : List Char → Nat
  | [] => max run best
  | c :: cs =>
    if c = quote then longestRun quote (run + 1) best cs
    else longestRun quote 0 (max run best) cs

def hexUpper (n : Nat) : Char := if n < 10 then Char.ofNat (48 + n) else Char.ofNat (55 + n)

-- The escape of a character between quotes, none if it stands for itself.
def escape? (lines : Bool) (c : Char) : Option (List Char) :=
  if c = '\x08' then some ['\\', 'b']
  else if c = '\t' then some ['\\', 't']
  else if c = '\n' then (if lines then none else some ['\\', 'n'])
  else if c = '\x0c' then some ['\\', 'f']
  else if c = '\r' then some ['\\', 'r']
  else if c = '\\' then some ['\\', '\\']
  else if c.toNat < 0x20 ∨ c.toNat = 0x7F then
    some ['\\', 'u', '0', '0', hexUpper (c.toNat / 16), hexUpper (c.toNat % 16)]
  else none

-- What is written so far, in reverse, and the number of quotes at its end that stand for
-- themselves.
structure Tail where
  written : List Char
  run : Nat

-- Writes one character between quotes. Of quotes in a row, `limit` stand for themselves before one
-- is escaped.
def Tail.add (lines : Bool) (limit : Nat) (t : Tail) (c : Char) : Tail :=
  if c = '"' then
    if limit ≤ t.run then ⟨'"' :: '\\' :: t.written, 0⟩ else ⟨'"' :: t.written, t.run + 1⟩
  else match escape? lines c with
    | some e => ⟨e.reverse ++ t.written, 0⟩
    | none => ⟨c :: t.written, 0⟩

def escaped (lines : Bool) (limit : Nat) (cs : List Char) : List Char :=
  (cs.foldl (Tail.add lines limit) ⟨[], 0⟩).written.reverse

def threeQuotes : List Char := ['"', '"', '"']

def threeApostrophes : List Char := ['\'', '\'', '\'']

def basicForm (cs : List Char) : List Char := '"' :: escaped false 0 cs ++ ['"']

def literalForm (cs : List Char) : List Char := '\'' :: cs ++ ['\'']

-- Forms of several lines start on a new line if the text has more than one.
def opening (cs : List Char) : List Char := if cs.contains '\n' then ['\n'] else []

def basicLinesForm (cs : List Char) : List Char :=
  threeQuotes ++ opening cs ++ escaped true 2 cs ++ threeQuotes

def literalLinesForm (cs : List Char) : List Char :=
  threeApostrophes ++ opening cs ++ cs ++ threeApostrophes

def valueText (cs : List Char) : List Char :=
  let controls := cs.any fun c => needsEscape c && c != '\n'
  let lines := cs.contains '\n'
  let backslash := cs.contains '\\'
  let quotes := longestRun '"' 0 0 cs
  let apostrophes := longestRun '\'' 0 0 cs
  if !controls && !backslash && quotes = 0 && !lines then basicForm cs
  else if !controls && apostrophes = 0 && !lines then literalForm cs
  else if !controls && !backslash && quotes ≤ 2 then basicLinesForm cs
  else if !controls && apostrophes ≤ 2 then literalLinesForm cs
  else if lines then basicLinesForm cs
  else basicForm cs

def isBareKey (cs : List Char) : Bool :=
  !cs.isEmpty && cs.all fun c => c.isAlphanum || c == '_' || c == '-'

def keyText (cs : List Char) : List Char :=
  let controls := cs.any needsEscape
  if isBareKey cs then cs
  else if !controls && !cs.contains '\\' && !cs.contains '"' then basicForm cs
  else if !controls && !cs.contains '\'' then literalForm cs
  else basicForm cs

def entryText (e : String × String) : List Char :=
  keyText e.1.toList ++ ' ' :: '=' :: ' ' :: valueText e.2.toList ++ ['\n']

-- The document for a table of texts, in the order given.
def render (es : List (String × String)) : String := String.ofList (es.flatMap entryText)

end ProfileSession.Toml
