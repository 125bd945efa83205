import ProfileSession.Decimal.Style
import ProfileSession.Text.Escaped

namespace ProfileSession

-- An object names each of its members once.
inductive Json where
  | null
  | bool (b : Bool)
  | int (n : Int)
  | real (x : Float)
  | text (s : String)
  | list (items : List Json)
  | object (members : List (String × Json))

namespace Json

-- Gives a member its value: in its old place if the object has one of that name, else at the end.
def put (name : String) (v : Json) : List (String × Json) → List (String × Json)
  | [] => [(name, v)]
  | m :: ms => if m.1 = name then (name, v) :: ms else m :: put name v ms

-- The members as written, the last of one name winning.
def members (ms : List (String × Json)) : List (String × Json) :=
  ms.foldl (fun acc m => put m.1 m.2 acc) []

-- What a message calls a value that is not of the sort asked for.
def describe : Json → String
  | .null => "null"
  | .bool b => "boolean `" ++ (if b then "true" else "false") ++ "`"
  | .int n => "integer `" ++ toString n ++ "`"
  | .real x => "floating point `" ++ Decimal.Style.compact.text x ++ "`"
  | .text s => "string " ++ Text.quoted s
  | .list _ => "sequence"
  | .object _ => "map"

theorem lookup_put (name : String) (v : Json) (ms : List (String × Json)) :
    (put name v ms).lookup name = some v := by
  induction ms with
  | nil => simp [put]
  | cons m ms ih =>
    obtain ⟨other, w⟩ := m
    by_cases h : other = name
    · simp [put, h]
    · have h' : (name == other) = false := by simpa using fun e => h e.symm
      simp [put, h, List.lookup_cons, h', ih]

end Json

end ProfileSession
