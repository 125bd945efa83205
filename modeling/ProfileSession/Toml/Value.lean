import ProfileSession.Text.Position

namespace ProfileSession.Toml

-- A stretch of a text: what follows its beginning, and what follows its end.
structure Span where
  start : List Char
  stop : List Char

def Span.bytes (s : Span) : Nat := Text.byteCount s.start - Text.byteCount s.stop

inductive Scalar where
  | text (s : String)
  | int (n : Int)
  | real (x : Float)
  | bool (b : Bool)
  | date

structure Key where
  name : String
  span : Span

-- How a table came about: by a header of its own, by the header of a table inside it, by a key
-- with points, or between braces.
inductive Form where
  | stated
  | implied
  | dotted
  | inline
deriving DecidableEq, Repr

inductive Item where
  | scalar (s : Scalar) (span : Span)
  | array (items : List Item) (span : Span)
  | table (form : Form) (entries : List (Key × Item)) (span : Option Span)
  | tables (items : List Item)

abbrev Entries := List (Key × Item)

namespace Entries

def find? (name : String) : Entries → Option Item
  | [] => none
  | e :: es => if e.1.name = name then some e.2 else find? name es

-- Gives the entry of a name another item, in its place.
def replace (name : String) (item : Item) : Entries → Entries
  | [] => []
  | e :: es => if e.1.name = name then (e.1, item) :: es else e :: replace name item es

def erase (name : String) (es : Entries) : Entries := es.filter fun e => e.1.name != name

end Entries

namespace Item

def span? : Item → Option Span
  | scalar _ span => some span
  | array _ span => some span
  | table _ _ span => span
  | tables items =>
    match items.head?, items.getLast? with
    | some (table _ _ (some first)), some (table _ _ (some last)) => some ⟨first.start, last.stop⟩
    | _, _ => none

end Item

end ProfileSession.Toml
