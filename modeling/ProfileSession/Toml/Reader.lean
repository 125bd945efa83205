import ProfileSession.Toml.Grammar
import ProfileSession.Toml.Fault
import ProfileSession.Decimal.Style

namespace ProfileSession.Toml

-- What a message calls an item that is not of the sort asked for. A date is a map of its parts.
def Item.describe : Item → String
  | .scalar (.text s) _ => "string " ++ s
  | .scalar (.int n) _ => "integer " ++ backquoted (toString n)
  | .scalar (.real x) _ => "floating point " ++ backquoted (Decimal.Style.plain.text x)
  | .scalar (.bool b) _ => "boolean " ++ backquoted (if b then "true" else "false")
  | .scalar .date _ => "map"
  | .array _ _ => "sequence"
  | .table _ _ _ => "map"
  | .tables _ => "sequence"

-- A fault of an entry: at its value, or at its key where the value has no place of its own.
def entryError (fault : Fault) (whole : List Char) (e : Key × Item) : Error :=
  Error.at fault whole (e.2.span?.getD e.1.span)

-- The text of an entry; `wanted` is what its reader calls it.
def wantText (wanted : String) (whole : List Char) (e : Key × Item) : Except Error String :=
  match e.2 with
  | .scalar (.text s) _ => .ok s
  | item => .error (entryError (.wrongType item.describe wanted) whole e)

def read (s : String) : Except Error Entries :=
  let cs := s.toList
  match document cs with
  | .ok es => .ok es
  | .error rest => .error (Error.at .unreadable cs ⟨rest, rest⟩)

def readTexts (s : String) : Except Error (List (String × String)) := do
  let es ← read s
  es.mapM fun e => return (e.1.name, ← wantText "a string" s.toList e)

end ProfileSession.Toml
