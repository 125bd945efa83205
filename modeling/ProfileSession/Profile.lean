import ProfileSession.Text.CaseMap

namespace ProfileSession

structure Profile where
  name : String
  email : String
  -- The identity provider that the account signs in with.
  provider : Option String := none
  -- The address of the user's picture.
  picture : Option String := none
deriving DecidableEq, Repr

namespace Profile

-- What is shown for an account of no identity provider.
def localProvider : String := "Local"

-- An empty text counts as none.
def nonempty? (s : Option String) : Option String := s.filter fun t => !t.isEmpty

def providerLabel (p : Profile) : String := (nonempty? p.provider).getD localProvider

def picture? (p : Profile) : Option String := nonempty? p.picture

-- The first character of the name in upper case, which may be more than one character.
def initial (p : Profile) : String :=
  match p.name.toList with
  | [] => ""
  | c :: _ => String.ofList (Text.upper c)

end Profile

end ProfileSession
