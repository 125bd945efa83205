import ProfileSession.Text.Alphanumeric
import ProfileSession.Text.Escaped

namespace ProfileSession

structure Token where
  text : String
deriving DecidableEq, Repr

namespace Token

-- A token without characters counts as no token.
def isEmpty (t : Token) : Bool := t.text.isEmpty

-- How diagnostics show a token: every letter and digit is hidden, those of escapes included.
def redacted (t : Token) : String :=
  "Token(" ++ (Text.quoted t.text).map (fun c => if Text.isAlphanumeric c then '*' else c) ++ ")"

theorem isEmpty_iff (t : Token) : t.isEmpty = true ↔ t.text = "" := by
  simp [isEmpty]

end Token

end ProfileSession
