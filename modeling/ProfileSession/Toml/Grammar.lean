import ProfileSession.Toml.Number
import ProfileSession.Toml.Table

namespace ProfileSession.Toml

-- Brackets and points of a key stay below this number.
def depthLimit : Nat := 80

def isBareKeyChar (c : Char) : Bool := c.isAlphanum || c == '_' || c == '-'

-- One part of a key: bare, or a text of one line.
def keyPart (fuel : Nat) : Reader Key := fun cs =>
  let named := fun (r : List Char × List Char) =>
    (⟨String.ofList r.1, ⟨cs, r.2⟩⟩, r.2)
  match cs with
  | '"' :: rest => (basic fuel [] rest).map named
  | '\'' :: rest => (literal rest).map named
  | cs =>
    let name := cs.takeWhile isBareKeyChar
    if name.isEmpty then fail cs else .ok (named (name, cs.dropWhile isBareKeyChar))

-- The parts of a key, with blanks around the points between them.
def keyParts (fuel : Nat) : Nat → List Key → Reader (List Key)
  | 0, _, cs => fail cs
  | n + 1, sofar, cs => do
    let (k, rest) ← keyPart fuel (skipBlanks cs)
    match skipBlanks rest with
    | '.' :: more => keyParts fuel n (k :: sofar) more
    | rest => return ((k :: sofar).reverse, rest)

def key (fuel : Nat) : Reader (List Key × Key) := fun cs => do
  let (ks, rest) ← keyParts fuel fuel [] cs
  if depthLimit ≤ ks.length then fail cs
  else match splitLast ks with
    | some r => return (r, rest)
    | none => fail cs

def keyAndSign (fuel : Nat) : Reader (List Key × Key) := fun cs => do
  let (r, rest) ← key fuel cs
  match rest with
  | '=' :: more => return (r, skipBlanks more)
  | rest => fail rest

def spanned (reader : Reader Scalar) : Reader Item := fun cs => do
  let (s, rest) ← reader cs
  return (.scalar s ⟨cs, rest⟩, rest)

def word (w : List Char) (s : Scalar) : Reader Scalar := fun cs =>
  if cs.take w.length = w then .ok (s, cs.drop w.length) else fail cs

-- A value that neither holds nor is held by brackets.
def scalar (fuel : Nat) : Reader Scalar := fun cs =>
  match cs with
  | '"' :: _ => (text fuel cs).map fun r => (.text r.1, r.2)
  | '\'' :: _ => (text fuel cs).map fun r => (.text r.1, r.2)
  | 't' :: _ => word ['t', 'r', 'u', 'e'] (.bool true) cs
  | 'f' :: _ => word ['f', 'a', 'l', 's', 'e'] (.bool false) cs
  | cs => numberOrDate cs

-- The items of an array after its opening bracket, up to its closing one. A comma may follow the
-- last item.
def arrayItems (fuel : Nat) (item : Reader Item) : Nat → List Item → Reader (List Item)
  | 0, _, cs => fail cs
  | n + 1, sofar, cs =>
    match skipLines fuel cs with
    | ']' :: rest => .ok (sofar.reverse, rest)
    | cs => do
      let (a, rest) ← item cs
      match skipLines fuel rest with
      | ',' :: more => arrayItems fuel item n (a :: sofar) more
      | ']' :: more => return ((a :: sofar).reverse, more)
      | rest => fail rest

-- The entries of an inline table after its opening brace, up to its closing one. It stands on one
-- line, and no comma follows the last entry.
def inlineEntries (fuel : Nat) (item : Reader Item) : Nat → Entries → Reader Entries
  | 0, _, cs => fail cs
  | n + 1, sofar, cs => do
    let (r, rest) ← keyAndSign fuel (skipBlanks cs)
    let (a, rest) ← item rest
    match addValue r.1 r.2 a .inline sofar with
    | none => fail cs
    | some es =>
      match skipBlanks rest with
      | ',' :: more => inlineEntries fuel item n es more
      | '\x7d' :: more => return (es, more)
      | rest => fail rest

-- A value inside fewer brackets than the depth allows.
def value (fuel : Nat) : Nat → Reader Item
  | 0, cs => fail cs
  | depth + 1, cs =>
    match cs with
    | '[' :: rest =>
      if depth = 0 then fail cs
      else do
        let (items, rest) ← arrayItems fuel (value fuel depth) fuel [] rest
        return (.array items ⟨cs, rest⟩, rest)
    | '\x7b' :: rest =>
      if depth = 0 then fail cs
      else match skipBlanks rest with
        | '\x7d' :: rest => return (.table .inline [] (some ⟨cs, rest⟩), rest)
        | _ => do
          let (es, rest) ← inlineEntries fuel (value fuel depth) fuel [] rest
          return (.table .inline es (some ⟨cs, rest⟩), rest)
    | cs => spanned (scalar fuel) cs

def assignment (fuel : Nat) (d : Draft) : Reader Draft := fun cs => do
  let (r, rest) ← keyAndSign fuel cs
  let (item, rest) ← value fuel depthLimit rest
  let (_, next) ← endOfLine rest
  match d.addLine r.1 r.2 item with
  | some d => return (d, next)
  | none => fail cs

-- A header line; `close` is what follows its key.
def header (fuel : Nat) (close : List Char) (start : List Key → Span → Draft → Option Draft)
    (d : Draft) (whole : List Char) : Reader Draft := fun cs => do
  let (r, rest) ← key fuel cs
  if rest.take close.length ≠ close then fail rest
  else
    let rest := rest.drop close.length
    let (_, next) ← endOfLine rest
    match start (r.1 ++ [r.2]) ⟨whole, rest⟩ d with
    | some d => return (d, next)
    | none => fail whole

def line (fuel : Nat) (d : Draft) : Reader Draft := fun cs =>
  match cs with
  | '[' :: '[' :: rest => header fuel [']', ']'] Draft.startOneOfMany d cs rest
  | '[' :: rest => header fuel [']'] Draft.startTable d cs rest
  | cs => assignment fuel d cs

def lines (fuel : Nat) : Nat → Draft → List Char → Except (List Char) Draft
  | 0, _, cs => fail cs
  | n + 1, d, cs =>
    match skipBlanks cs with
    | [] => .ok d
    | '#' :: rest =>
      match endOfLine ('#' :: rest) with
      | .ok (_, next) => lines fuel n d next
      | .error rest => .error rest
    | cs =>
      match lineEnd? cs with
      | some next => lines fuel n d next
      | none =>
        match line fuel d cs with
        | .ok (d, next) => lines fuel n d next
        | .error rest => .error rest

-- A mark of the encoding at the front is no part of the document.
def dropMark (cs : List Char) : List Char :=
  match cs with
  | c :: rest => if c.toNat = 0xFEFF then rest else cs
  | [] => []

-- The entries of a document, or the text that could not be read.
def document (cs : List Char) : Except (List Char) Entries :=
  let fuel := cs.length + 1
  match lines fuel fuel {} (dropMark cs) with
  | .ok d =>
    match d.complete with
    | some es => .ok es
    | none => .error []
  | .error rest => .error rest

end ProfileSession.Toml
